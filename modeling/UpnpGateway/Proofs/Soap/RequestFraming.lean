/-
# How requests are framed

A request that is written as in the standard is put together from texts, and the type of the
service is one of them.  This file shows when the text is one message whose head has five
headers: the host and the target come from a URL, and the name of the action is a name, so none
of them ends a line.  The type of a service is what a gateway says it is, and goes into the head
as it is; if it ends a line, it makes lines of its own.
-/
import UpnpGateway.Device.Description
import UpnpGateway.Proofs.Http.RequestLines
import UpnpGateway.Proofs.Net.UrlText
import UpnpGateway.Proofs.Session.Invocation
import UpnpGateway.Proofs.Soap.Requests

namespace UpnpGateway

open UpnpGateway.Http UpnpGateway.Net UpnpGateway.Text

/-! ## Messages -/

namespace Http

/-- The first line of a request. -/
def requestLine (target : String) : String := "POST " ++ target ++ " HTTP/1.1"

/-- The line of a header. -/
def headerLine (header : String × String) : String := header.1 ++ ": " ++ header.2

/-- The lines of the head of a request. -/
def headLines (target : String) (headers : List (String × String)) : List String :=
  requestLine target :: headers.map headerLine

/-- The bytes of a line. -/
def lineBytes (line : String) : Bytes := encodeUtf8 line.toList

/-- The names of the headers of a request, in their order. -/
def headerNames : List String :=
  ["Host", "Content-Type", "Content-Length", "SOAPAction", "Connection"]

/-- Bytes that are read as one request with a head and a body. -/
structure FramedAs (raw head : Bytes) (target : String) (headers : List (String × String))
    (body : Bytes) : Prop where
  /-- The head goes up to its first end, and the body is behind it. -/
  cut : cutRun headEnd raw = some (head, body)
  /-- The request line and each of the headers have a line of their own. -/
  hasLines : HasLines head ((headLines target headers).map lineBytes)
  /-- The target is a path from the root. -/
  rooted : target.toList.head? = some '/'
  /-- The target is one word of the request line. -/
  isSolid : IsSolid target.toList
  /-- There are exactly the five headers. -/
  names : headers.map Prod.fst = headerNames
  /-- One of them has the number of the bytes in the body. -/
  length : ("Content-Length", String.ofList (decimal body.length)) ∈ headers

/-- Bytes that are one request with a body. -/
def IsFramed (raw body : Bytes) : Prop :=
  ∃ head target headers, FramedAs raw head target headers body

lemma lineBytes_ne_nil {target : String} {headers : List (String × String)} :
    ∀ l ∈ headLines target headers, lineBytes l ≠ [] := by
  intro l hl
  refine encodeUtf8_ne_nil ?_
  rcases List.mem_cons.1 hl with rfl | hl
  · simp [requestLine]
  · obtain ⟨header, -, rfl⟩ := List.mem_map.1 hl
    simp [headerLine]

lemma encodeUtf8_join_cons (l : String) (ls : List String) :
    encodeUtf8 (String.join ((l :: ls).map (· ++ "\r\n")) ++ "\r\n").toList =
      lineBytes l ++ (lineEnd ++
        encodeUtf8 (String.join (ls.map (· ++ "\r\n")) ++ "\r\n").toList) := by
  have hend : encodeUtf8 "\r\n".toList = lineEnd := by decide
  rw [List.map_cons, String.join_cons, String.append_assoc, String.append_assoc,
    String.toList_append, String.toList_append, encodeUtf8_append, encodeUtf8_append, hend]
  rfl

/-- Lines that are ended one by one, and an empty line, are the lines with their ends between
them and the end of the head. -/
lemma encodeUtf8_join (l : String) (ls : List String) :
    encodeUtf8 (String.join ((l :: ls).map (· ++ "\r\n")) ++ "\r\n").toList =
      List.intercalate lineEnd ((l :: ls).map lineBytes) ++ headEnd := by
  induction ls generalizing l with
  | nil =>
    have hlast : encodeUtf8 (String.join (([] : List String).map (· ++ "\r\n")) ++ "\r\n").toList =
        lineEnd := by decide
    rw [encodeUtf8_join_cons, hlast]
    simp [headEnd, lineEnd]
  | cons m ls ih =>
    rw [encodeUtf8_join_cons, ih m]
    simp [List.intercalate_cons_cons]

section Request

variable {target host action body : String} {port : Nat}

/-- The bytes of a request that is written as in the standard are its lines, an empty line and
its body. -/
lemma encodeUtf8_verbatimRequest :
    encodeUtf8 (verbatimRequest target host port action body).toList =
      List.intercalate lineEnd
        ((headLines target (verbatimHeaders host port action body)).map lineBytes) ++
        headEnd ++ encodeUtf8 body.toList := by
  have htext : verbatimRequest target host port action body =
      String.join ((headLines target (verbatimHeaders host port action body)).map (· ++ "\r\n")) ++
        "\r\n" ++ body := by
    have hline : requestLine target ++ "\r\n" = "POST " ++ target ++ " HTTP/1.1\r\n" := by
      rw [requestLine, String.append_assoc]
      rfl
    rw [verbatimRequest, headLines, List.map_cons, String.join_cons, hline, List.map_map]
    rfl
  rw [htext, String.toList_append, encodeUtf8_append, headLines, encodeUtf8_join]

lemma isLine_lineBytes_iff {line : String} :
    IsLine (lineBytes line) ↔ ¬ ['\r', '\n'] <:+: line.toList :=
  lineEnd_infix_encodeUtf8_iff.not

lemma isLine_of_notMem {line : String} (h : '\r' ∉ line.toList) : IsLine (lineBytes line) :=
  isLine_lineBytes_iff.2 fun hfound => h (hfound.subset List.mem_cons_self)

/-- The line of a header ends nowhere if its value does not. -/
lemma isLine_headerLine_iff {name value : String} (hname : '\r' ∉ name.toList) :
    IsLine (lineBytes (headerLine (name, value))) ↔ ¬ ['\r', '\n'] <:+: value.toList := by
  have hcolon : '\r' ∉ (name ++ ": ").toList := by
    rw [String.toList_append, List.mem_append]
    exact fun h => h.elim hname (by decide)
  rw [isLine_lineBytes_iff, headerLine, String.toList_append, pair_infix_append_left hcolon]

/-- If the target and the host have no blanks and the value for the action ends no line, the head
has a line for each of its parts. -/
lemma isLine_of_mem_headLines (htarget : IsSolid target.toList) (hhost : IsSolid host.toList)
    (haction : ¬ ['\r', '\n'] <:+: action.toList) :
    ∀ l ∈ headLines target (verbatimHeaders host port action body), IsLine (lineBytes l) := by
  intro l hl
  have hreturn : isBlank '\r' = true := by decide
  have hdecimal : ∀ n, '\r' ∉ (String.ofList (decimal n)).toList := by
    intro n
    rw [String.toList_ofList]
    exact (IsSolid.decimal n).notMem hreturn
  simp only [headLines, verbatimHeaders, List.map_cons, List.map_nil, List.mem_cons,
    List.not_mem_nil, or_false] at hl
  rcases hl with rfl | rfl | rfl | rfl | rfl | rfl
  · refine isLine_of_notMem ?_
    have h := htarget.notMem hreturn
    simp [requestLine, h]
  · refine isLine_of_notMem ?_
    have h := hhost.notMem hreturn
    simpa [headerLine, h] using hdecimal port
  · exact isLine_of_notMem (by decide)
  · refine isLine_of_notMem ?_
    simpa [headerLine] using hdecimal body.utf8ByteSize
  · exact (isLine_headerLine_iff (by decide)).2 haction
  · exact isLine_of_notMem (by decide)

/-- If the target and the host have no blanks and the value for the action ends no line, a request
is one message with the headers that were written. -/
lemma exists_framedAs_verbatimRequest (htarget : IsSolid target.toList)
    (hroot : target.toList.head? = some '/') (hhost : IsSolid host.toList)
    (haction : ¬ ['\r', '\n'] <:+: action.toList) :
    ∃ head, FramedAs (encodeUtf8 (verbatimRequest target host port action body).toList) head target
      (verbatimHeaders host port action body) (encodeUtf8 body.toList) := by
  rw [encodeUtf8_verbatimRequest]
  have hlines : ∀ bytes ∈ (headLines target (verbatimHeaders host port action body)).map
      lineBytes, IsLine bytes ∧ bytes ≠ [] := by
    intro bytes hbytes
    obtain ⟨l, hl, rfl⟩ := List.mem_map.1 hbytes
    exact ⟨isLine_of_mem_headLines htarget hhost haction l hl, lineBytes_ne_nil l hl⟩
  have hlength : ("Content-Length", String.ofList (decimal (encodeUtf8 body.toList).length)) ∈
      verbatimHeaders host port action body := by
    rw [length_encodeUtf8]
    simp [verbatimHeaders]
  exact ⟨_, cutRun_headEnd (by simp [headLines]) hlines _, ⟨rfl, fun l hl => (hlines l hl).1⟩,
    hroot, htarget, rfl, hlength⟩

/-- If the target and the host have no blanks, a request is framed unless the value for the action
ends a line. -/
lemma isFramed_verbatimRequest_iff (htarget : IsSolid target.toList)
    (hroot : target.toList.head? = some '/') (hhost : IsSolid host.toList) :
    IsFramed (encodeUtf8 (verbatimRequest target host port action body).toList)
        (encodeUtf8 body.toList) ↔
      ¬ ['\r', '\n'] <:+: action.toList := by
  constructor
  · rintro ⟨head, target', headers, h⟩
    rw [encodeUtf8_verbatimRequest] at h
    obtain ⟨hhead, hlines⟩ := h.hasLines
    have hraw := eq_of_cutRun h.cut
    rw [hhead] at hraw
    have hintercalate := List.append_cancel_right (List.append_cancel_right hraw)
    -- a head is cut into six lines in one way only
    have hlength : headers.length = headerNames.length := by rw [← h.names, List.length_map]
    obtain ⟨-, heq⟩ := length_le_of_intercalate_eq (by simp [headLines]) hlines hintercalate
    have hsame := heq (by simp [headLines, verbatimHeaders, hlength, headerNames])
    rw [← hsame] at hlines
    have hline := hlines (lineBytes (headerLine ("SOAPAction", action)))
      (by simp [headLines, verbatimHeaders])
    exact (isLine_headerLine_iff (by decide)).1 hline
  · intro haction
    obtain ⟨head, h⟩ := exists_framedAs_verbatimRequest htarget hroot hhost haction
    exact ⟨head, _, _, h⟩

end Request

end Http

/-! ## Requests for actions -/

namespace Soap

/-- The value that tells the name of an action ends a line exactly if the type of the service
does. -/
lemma lineEnd_infix_soapAction_iff (serviceType : String) {name : String}
    (hname : IsPlainName name) :
    ['\r', '\n'] <:+: (soapAction serviceType name).toList ↔
      ['\r', '\n'] <:+: serviceType.toList := by
  have hfeed : '\n' ∉ ("#" ++ name ++ "\"").toList := by
    have h : '\n' ∉ name.toList := by
      intro hmem
      exact absurd (hname.isName.not_isMarkupBlank hmem) (by decide)
    simpa using h
  have htext : (soapAction serviceType name).toList =
      "\"".toList ++ (serviceType.toList ++ ("#" ++ name ++ "\"").toList) := by
    simp [soapAction]
  rw [htext, pair_infix_append_left (by decide), pair_infix_append_right hfeed]

/-- An invocation sends the request for its envelope and nothing else. -/
lemma snd_run_invoke {client : Client} (profile : Profile) {service : Service} {name : String}
    {args : List (String × Value)} {call : Call} (hcall : prepare service name args = .ok call)
    {request : Request}
    (hrequest : client.request? service.controlUrl (soapAction service.serviceType name)
      call.envelope = some request) (net : Network) (past : List Request) :
    ((invoke client profile service name args).run net past).2 = past ++ [request] := by
  obtain ⟨texts, -, -, haction, -⟩ := exists_of_prepare hcall
  rw [run_invoke client profile hcall, haction, hrequest]
  rfl

section Invocation

variable {client : Client} (hstyle : client.style = .verbatim) (service : Service) {u : Url}
  (hurl : Url.parse? service.controlUrl = some u) (hscheme : u.scheme = "http".toList)
  {host : Host} (hhost : u.host? = some host) {name : String} (hname : IsPlainName name)
  (envelope : String)
include hstyle hurl hscheme hhost hname

/-- An envelope is posted by a request that is one message unless the type of the service ends a
line. -/
lemma exists_request_isFramed_iff :
    ∃ text, client.request? service.controlUrl (soapAction service.serviceType name) envelope =
        some (.send (String.ofList host.chars) (u.port?.getD 80) text) ∧
      (IsFramed (encodeUtf8 text.toList) (encodeUtf8 envelope.toList) ↔
        ¬ ['\r', '\n'] <:+: service.serviceType.toList) := by
  have hspecial : Url.isSpecial u.scheme = true := by
    rw [hscheme]
    decide
  obtain ⟨htarget, hchars⟩ := Url.isSolid_of_host? hurl hhost
  have hroot := Url.head?_requestTarget hurl hhost hspecial
  refine ⟨verbatimRequest (String.ofList u.requestTarget) (String.ofList host.chars)
    (u.port?.getD 80) (soapAction service.serviceType name) envelope, ?_, ?_⟩
  · simp only [Client.request?, hstyle, hurl, hhost, Option.map_some]
  · rw [isFramed_verbatimRequest_iff, lineEnd_infix_soapAction_iff _ hname]
    · rwa [String.toList_ofList]
    · rwa [String.toList_ofList]
    · rwa [String.toList_ofList]

/-- A request that is written as in the standard is one message, with five headers on lines of
their own and the envelope as its body, unless the type of the service ends a line.  This is so
for every service with a control URL that has a host, for every action with a plain name and for
every envelope; and an invocation sends the request for its envelope and nothing else. -/
theorem isFramed_iff (profile : Profile) :
    ∃ text,
      (∀ net past,
        ((client.post service.controlUrl (soapAction service.serviceType name) envelope).run
          net past).2 = past ++ [.send (String.ofList host.chars) (u.port?.getD 80) text]) ∧
      (∀ args call, prepare service name args = .ok call → call.envelope = envelope →
        ∀ net past, ((invoke client profile service name args).run net past).2 =
          past ++ [.send (String.ofList host.chars) (u.port?.getD 80) text]) ∧
      (IsFramed (encodeUtf8 text.toList) (encodeUtf8 envelope.toList) ↔
        ¬ ['\r', '\n'] <:+: service.serviceType.toList) := by
  obtain ⟨text, hrequest, hframed⟩ :=
    exists_request_isFramed_iff hstyle service hurl hscheme hhost hname envelope
  refine ⟨text, fun net past => ?_, fun args call hcall henvelope => ?_, hframed⟩
  · rw [Client.snd_run_post, hrequest]
    rfl
  · exact snd_run_invoke profile hcall (henvelope ▸ hrequest)

end Invocation

/-! ### A gateway with headers of its own -/

/-- A service of the given type that declares an action without arguments. -/
def askedService (serviceType : String) : Service :=
  ⟨serviceType, "", "http://[::1]/", "", "", ⟨[⟨"Ask", [], []⟩], []⟩⟩

/-- The control URL of the service. -/
def askedUrl : Url :=
  ⟨"http".toList, some ⟨[], [], .ipv6 ⟨[0, 0, 0, 0, 0, 0, 0, 1], rfl⟩, none⟩, .segments [[]],
    none, none⟩

lemma parse?_askedUrl : Url.parse? "http://[::1]/" = some askedUrl := by decide +kernel

/-- What asks a service for its action. -/
def askedCall (serviceType : String) : Call :=
  ⟨⟨"Ask", [], []⟩, soapAction serviceType "Ask", requestEnvelope serviceType "Ask" []⟩

lemma prepare_askedService (serviceType : String) :
    prepare (askedService serviceType) "Ask" [] = .ok (askedCall serviceType) := rfl

lemma isPlainName_ask : IsPlainName "Ask" := by decide

/-- A client for gateways that compare the names of headers letter by letter. -/
def strictClient : Client := ⟨default, .verbatim⟩

/-- The type of the service that makes port mappings. -/
def mappingType : String := "urn:schemas-upnp-org:service:WANIPConnection:1"

/-- With a type as in the standard, the action is asked for by one message. -/
theorem isFramed_ask :
    ∃ text,
      (∀ net past, ((invoke strictClient .avm (askedService mappingType) "Ask" []).run
        net past).2 = past ++ [.send "[::1]" 80 text]) ∧
      IsFramed (encodeUtf8 text.toList)
        (encodeUtf8 (askedCall mappingType).envelope.toList) := by
  have hstyle : strictClient.style = .verbatim := rfl
  obtain ⟨text, -, hinvoke, hframed⟩ := isFramed_iff hstyle (askedService mappingType)
    parse?_askedUrl rfl rfl isPlainName_ask (askedCall mappingType).envelope .avm
  have hreturn : '\r' ∉ mappingType.toList := by decide
  refine ⟨text, hinvoke [] _ (prepare_askedService _) rfl, hframed.2 fun h => ?_⟩
  exact hreturn (h.subset List.mem_cons_self)

/-- The type with a line of its own behind it. -/
def twoLineType : String := mappingType ++ "\r\nX: y"

/-- The root document of a gateway that ends a line in the type of its service. -/
def twoLineDocument : String :=
  "<root><device><deviceType>d</deviceType><serviceList><service>" ++
    "<serviceType>urn:schemas-upnp-org:service:WANIPConnection:1&#13;&#10;X: y</serviceType>" ++
    "<controlURL>http://[::1]/</controlURL></service></serviceList></device></root>"

/-- The type of the service is read as it is.  Once its action is known, asking for it sends a
request that is no message with five headers. -/
theorem not_isFramed_twoLine :
    (Description.parse .localName twoLineDocument).toOption.map (·.device.services) =
      some [{ askedService twoLineType with table := ⟨[], []⟩ }] ∧
    ∃ text,
      (∀ net past, ((invoke strictClient .avm (askedService twoLineType) "Ask" []).run
        net past).2 = past ++ [.send "[::1]" 80 text]) ∧
      ¬ IsFramed (encodeUtf8 text.toList)
        (encodeUtf8 (askedCall twoLineType).envelope.toList) := by
  refine ⟨by decide +kernel, ?_⟩
  have hstyle : strictClient.style = .verbatim := rfl
  obtain ⟨text, hrequest, hframed⟩ := exists_request_isFramed_iff hstyle (askedService twoLineType)
    parse?_askedUrl rfl rfl isPlainName_ask (askedCall twoLineType).envelope
  have htype : ['\r', '\n'] <:+: twoLineType.toList := by
    rw [twoLineType, String.toList_append]
    exact ⟨mappingType.toList, "X: y".toList, by simp⟩
  exact ⟨text, snd_run_invoke .avm (prepare_askedService _) hrequest, fun h => hframed.1 h htype⟩

end Soap

end UpnpGateway
