import AtomicCss.Response.Exchange
import Mathlib.Data.List.Infix

/-! # Collected responses

The start of an HTML response is held back until its last part has come. Then the whole body is
restyled and sent after the start, or nothing is sent. How the body is cut into parts makes no
difference to what is sent. -/

namespace AtomicCss.Response

/-- A start of an HTML response that is not compressed. -/
structure Message.StartsHtml (message : Message) : Prop where
  isStart : message.isStart
  contentType : ∃ type, Headers.get? Headers.contentType message.headerList = some type ∧
    "text/html".toList <+: type
  contentEncoding : ∀ encoding,
    Headers.get? Headers.contentEncoding message.headerList = some encoding →
      encoding = [] ∨ Text.lowercase encoding.trim = "identity".toList

namespace Headers

theorem isHtml_iff {headers : Headers} :
    headers.isHtml ↔ ∃ type, get? contentType headers = some type ∧
      "text/html".toList <+: type := by
  rw [isHtml]
  cases get? contentType headers with
  | none => simp
  | some type => simp [List.isPrefixOf_iff_prefix]

theorem isIdentity_iff {headers : Headers} :
    headers.isIdentity ↔ ∀ encoding, get? contentEncoding headers = some encoding →
      encoding = [] ∨ Text.lowercase encoding.trim = "identity".toList := by
  rw [isIdentity]
  cases get? contentEncoding headers with
  | none => simp
  | some encoding =>
      cases encoding with
      | nil => simp
      | cons c rest =>
          rw [decide_eq_true_iff]
          constructor
          · rintro hidentity encoding ⟨⟩
            exact Or.inr hidentity
          · intro h
            exact (h _ rfl).resolve_left (List.cons_ne_nil c rest)

end Headers

theorem Message.startsHtml_iff {message : Message} :
    message.StartsHtml ↔
      message.isStart ∧ message.headerList.isHtml ∧ message.headerList.isIdentity := by
  rw [Headers.isHtml_iff, Headers.isIdentity_iff]
  constructor
  · rintro ⟨hstart, htype, hencoding⟩
    exact ⟨hstart, htype, hencoding⟩
  · rintro ⟨hstart, htype, hencoding⟩
    exact ⟨hstart, htype, hencoding⟩

instance : DecidablePred Message.StartsHtml := fun _ => decidable_of_iff _ Message.startsHtml_iff.symm

theorem Message.isStart_of_isBody {message : Message} (h : message.isBody) :
    message.isStart = false := by
  have hkind : message.kind = bodyKind := of_decide_eq_true h
  rw [Message.isStart, hkind]
  rfl

/-- A start as it is held back: with its headers, also if there are none. -/
def Message.kept (start : Message) : Message := { start with headers := some start.headerList }

/-- A start as it is sent: with the number of bytes of the body. -/
def Message.withLength (start : Message) (body : Bytes) : Message :=
  { start with
    headers := some (start.headerList.set Headers.contentLength (Text.ofNat body.length)) }

/-- Restyling the bytes of a body in the charset with this name gives these bytes: the body is read,
restyled as a page, and written. -/
def Restyles (settings : Settings) (charsetName : Text) (body bytes : Bytes) : Prop :=
  '\x00' ∉ charsetName ∧ ∃ charset page rendered,
    Charset.Coding.ofName? charsetName = some (.charset charset) ∧
      charset.decode body = some page ∧
      (Pass.render settings page .empty).outcome = .ok rendered ∧
      charset.encode rendered = some bytes

/-- A body that comes in parts: each of them but the last says that more follows. -/
inductive Carries : List Message → Bytes → Prop
  | last {message : Message} (hbody : message.isBody) (hlast : message.hasMore = false) :
      Carries [message] message.bodyPart
  | more {message : Message} {rest : List Message} {body : Bytes} (hbody : message.isBody)
      (hmore : message.hasMore) (hrest : Carries rest body) :
      Carries (message :: rest) (message.bodyPart ++ body)

namespace Exchange

variable {settings : Settings} {exchange : Exchange} {start message : Message}

/-! ## One message -/

theorem receive_of_startsHtml (h : message.StartsHtml) :
    receive settings exchange message =
      pass ⟨some message.kept, exchange.parts⟩ [] := by
  obtain ⟨hstart, htype, hencoding⟩ := Message.startsHtml_iff.1 h
  simp [receive, hstart, htype, hencoding, Message.kept]

theorem receive_of_isStart (hstart : message.isStart) (h : ¬message.StartsHtml) :
    receive settings exchange message = pass exchange [message] := by
  have hother : ¬(message.headerList.isHtml && message.headerList.isIdentity) = true := by
    rw [Bool.and_eq_true]
    exact fun hboth => h (Message.startsHtml_iff.2 ⟨hstart, hboth⟩)
  simp only [receive, hstart, if_true, hother]
  rfl

theorem receive_of_held_eq_none (hstart : message.isStart = false) (hheld : exchange.held = none) :
    receive settings exchange message = pass exchange [message] := by
  simp [receive, hstart, hheld]

/-- A message of another kind is sent on at once, also while a start is held back. -/
theorem receive_of_not_isBody (hstart : message.isStart = false) (hbody : message.isBody = false) :
    receive settings exchange message = pass exchange [message] := by
  cases hheld : exchange.held with
  | none => exact receive_of_held_eq_none hstart hheld
  | some start => simp [receive, hstart, hheld, hbody]

theorem receive_of_hasMore (hheld : exchange.held = some start) (hbody : message.isBody)
    (hmore : message.hasMore) :
    receive settings exchange message =
      pass ⟨some start, exchange.parts ++ [message.bodyPart]⟩ [] := by
  simp [receive, Message.isStart_of_isBody hbody, hheld, hbody, hmore]

theorem receive_of_last (hheld : exchange.held = some start) (hbody : message.isBody)
    (hlast : message.hasMore = false) :
    receive settings exchange message =
      release settings start (exchange.parts ++ [message.bodyPart]) := by
  simp [receive, Message.isStart_of_isBody hbody, hheld, hbody, hlast]

/-! ## The whole body -/

theorem outcome_renderBody_eq_ok_iff {charset : Charset} {page : Text} {bytes : Bytes} :
    (renderBody settings charset page).outcome = .ok bytes ↔
      ∃ rendered, (Pass.render settings page .empty).outcome = .ok rendered ∧
        charset.encode rendered = some bytes := by
  simp only [renderBody]
  cases (Pass.render settings page .empty).outcome with
  | error fault => simp
  | ok rendered =>
      dsimp only
      cases hencode : charset.encode rendered with
      | none => simp [hencode]
      | some written => simp [hencode]

theorem outcome_renderBytes_eq_ok_iff {charsetName : Text} {body bytes : Bytes} :
    (renderBytes settings charsetName body).outcome = .ok bytes ↔
      Restyles settings charsetName body bytes := by
  simp only [renderBytes, Restyles]
  by_cases hnull : '\x00' ∈ charsetName
  · simp [hnull]
  · rw [if_neg hnull]
    rcases Charset.Coding.ofName? charsetName with _ | charset | _ | _
    · simp
    · cases hdecode : charset.decode body with
      | none => simp [hdecode]
      | some page => simp [hnull, hdecode, outcome_renderBody_eq_ok_iff]
    · simp
    · simp

/-- What is sent at the end is the start and the whole body. -/
theorem release_of_restyles {parts : List Bytes} {bytes : Bytes}
    (h : Restyles settings start.headerList.charsetName parts.flatten bytes) :
    (release settings start.kept parts).sent = [start.withLength bytes, .wholeBody bytes] ∧
      (release settings start.kept parts).outcome = .ok () := by
  have hrender : (renderBytes settings start.kept.headerList.charsetName parts.flatten).outcome =
      .ok bytes := outcome_renderBytes_eq_ok_iff.2 h
  simp only [release, hrender, and_true]
  rfl

/-- Nothing is sent if the body cannot be restyled. -/
theorem release_of_not_restyles {parts : List Bytes}
    (h : ¬∃ bytes, Restyles settings start.headerList.charsetName parts.flatten bytes) :
    (release settings start.kept parts).sent = [] ∧
      ∃ fault, (release settings start.kept parts).outcome = .error fault := by
  cases hrender : (renderBytes settings start.kept.headerList.charsetName parts.flatten).outcome with
  | error fault => simp [release, hrender]
  | ok bytes => exact absurd ⟨bytes, outcome_renderBytes_eq_ok_iff.1 hrender⟩ h

/-! ## Runs -/

theorem run_cons_of_httpScope (rest : List Message) :
    run settings httpScope exchange (message :: rest) =
      receive settings exchange message ::
        run settings httpScope (receive settings exchange message).exchange rest := by
  rw [run, receiveIn, if_pos rfl]

/-- While a start is held back, the parts of a body are collected, and the last one releases the
start with all that has been collected. -/
theorem run_of_held (settings : Settings) {messages : List Message} {body : Bytes}
    (h : Carries messages body) (hheld : exchange.held = some start) :
    ∃ early parts, run settings httpScope exchange messages =
        early ++ [release settings start parts] ∧
      (∀ sending ∈ early, sending.sent = [] ∧ sending.outcome = .ok ()) ∧
      parts.flatten = exchange.parts.flatten ++ body := by
  induction h generalizing exchange with
  | @last message hbody hlast =>
      refine ⟨[], exchange.parts ++ [message.bodyPart], ?_, ?_, ?_⟩
      · rw [run_cons_of_httpScope, receive_of_last hheld hbody hlast]
        rfl
      · intro sending hsending
        cases hsending
      · rw [List.flatten_append, List.flatten_singleton]
  | @more message rest body hbody hmore hrest ih =>
      have hnext : (⟨some start, exchange.parts ++ [message.bodyPart]⟩ : Exchange).held =
          some start := rfl
      obtain ⟨early, parts, hrun, hearly, hparts⟩ := ih hnext
      refine ⟨pass ⟨some start, exchange.parts ++ [message.bodyPart]⟩ [] :: early, parts,
        ?_, ?_, ?_⟩
      · rw [run_cons_of_httpScope, receive_of_hasMore hheld hbody hmore, List.cons_append]
        exact congrArg _ hrun
      · exact List.forall_mem_cons.2 ⟨⟨rfl, rfl⟩, hearly⟩
      · rw [hparts, List.flatten_append, List.flatten_singleton, List.append_assoc]

/-- An HTML response is held back until its last part. -/
theorem run_of_startsHtml (settings : Settings) (hstart : start.StartsHtml)
    {messages : List Message} {body : Bytes} (hmessages : Carries messages body) :
    ∃ early parts, run settings httpScope empty (start :: messages) =
        early ++ [release settings start.kept parts] ∧
      (∀ sending ∈ early, sending.sent = [] ∧ sending.outcome = .ok ()) ∧
      parts.flatten = body := by
  have hheld : (⟨some start.kept, []⟩ : Exchange).held = some start.kept := rfl
  obtain ⟨early, parts, hrun, hearly, hparts⟩ := run_of_held settings hmessages hheld
  refine ⟨pass ⟨some start.kept, []⟩ [] :: early, parts, ?_, ?_, hparts⟩
  · rw [run_cons_of_httpScope, receive_of_startsHtml hstart, List.cons_append]
    exact congrArg _ hrun
  · exact List.forall_mem_cons.2 ⟨⟨rfl, rfl⟩, hearly⟩

theorem flatMap_sent_of_early {early : List Sending} {final : Sending}
    (h : ∀ sending ∈ early, sending.sent = [] ∧ sending.outcome = .ok ()) :
    (early ++ [final]).flatMap Sending.sent = final.sent := by
  have hnone : early.flatMap Sending.sent = [] :=
    List.flatMap_eq_nil_iff.2 fun sending hsending => (h sending hsending).1
  rw [List.flatMap_append, List.flatMap_singleton, hnone, List.nil_append]

/-- Nothing is sent before the last part of the body of an HTML response. With it, the start and the
whole restyled body are sent, or nothing at all if the body cannot be restyled. Other parts with the
same bytes lead to the same messages. -/
theorem sent_of_carries (settings : Settings) {start : Message} (hstart : start.StartsHtml)
    {messages : List Message} {body : Bytes} (hmessages : Carries messages body) :
    ∃ early final, run settings httpScope empty (start :: messages) = early ++ [final] ∧
      (∀ sending ∈ early, sending.sent = [] ∧ sending.outcome = .ok ()) ∧
      (∀ bytes, Restyles settings start.headerList.charsetName body bytes →
        final.sent = [start.withLength bytes, .wholeBody bytes] ∧ final.outcome = .ok ()) ∧
      ((¬∃ bytes, Restyles settings start.headerList.charsetName body bytes) →
        final.sent = [] ∧ ∃ fault, final.outcome = .error fault) ∧
      ∀ others, Carries others body →
        (run settings httpScope empty (start :: others)).flatMap Sending.sent =
          (run settings httpScope empty (start :: messages)).flatMap Sending.sent := by
  obtain ⟨early, parts, hrun, hearly, rfl⟩ := run_of_startsHtml settings hstart hmessages
  refine ⟨early, release settings start.kept parts, hrun, hearly, ?_, release_of_not_restyles, ?_⟩
  · intro bytes hbytes
    exact release_of_restyles hbytes
  · intro others hothers
    obtain ⟨early', parts', hrun', hearly', hparts⟩ := run_of_startsHtml settings hstart hothers
    rw [hrun, hrun', flatMap_sent_of_early hearly, flatMap_sent_of_early hearly']
    by_cases hrestyles : ∃ bytes,
        Restyles settings start.headerList.charsetName parts.flatten bytes
    · obtain ⟨bytes, hbytes⟩ := hrestyles
      rw [(release_of_restyles hbytes).1, (release_of_restyles (hparts ▸ hbytes)).1]
    · rw [(release_of_not_restyles hrestyles).1, (release_of_not_restyles (hparts ▸ hrestyles)).1]

/-- A start of an HTML response that also gives a status. -/
def pageStart : Message :=
  ⟨Message.startKind, some [(Headers.contentType, "text/html; charset=UTF8".toList)], none, none,
    [("status".toList, .integer 200)]⟩

/-- A page whose letter is cut between its two bytes, with a part without bytes in between. -/
def cutParts : List Message :=
  [⟨Message.bodyKind, none, some (Charset.encodeUtf8 "<p style=margin:0>".toList ++ [0xC3]),
      some (.bool true), []⟩,
    ⟨Message.bodyKind, none, none, some (.bool true), []⟩,
    ⟨Message.bodyKind, none, some (0xA9 :: Charset.encodeUtf8 "</p>".toList), none, []⟩]

/-- The page in one part. -/
def wholePart : Message :=
  ⟨Message.bodyKind, none, some (Charset.encodeUtf8 "<p style=margin:0>é</p>".toList), none, []⟩

/-- The page after it is restyled. -/
def restyledPage : Bytes :=
  Charset.encodeUtf8 ("<style id=\"headwind\">.hw_CZuXp \x7b margin: 0 \x7d</style>" ++
    "<p class=\"hw_CZuXp\">é</p>").toList

theorem restyles_wholePart :
    Restyles .standard pageStart.headerList.charsetName wholePart.bodyPart restyledPage := by
  apply outcome_renderBytes_eq_ok_iff.1
  decide +kernel

theorem cutParts_sent_whole :
    pageStart.StartsHtml ∧ Carries cutParts wholePart.bodyPart ∧
      Carries [wholePart] wholePart.bodyPart ∧
      Restyles .standard pageStart.headerList.charsetName wholePart.bodyPart restyledPage ∧
      (run .standard httpScope empty (pageStart :: cutParts)).flatMap Sending.sent =
        [pageStart.withLength restyledPage, .wholeBody restyledPage] ∧
      (run .standard httpScope empty [pageStart, wholePart]).flatMap Sending.sent =
        [pageStart.withLength restyledPage, .wholeBody restyledPage] := by
  have hstart : pageStart.StartsHtml := Message.startsHtml_iff.2 (by decide +kernel)
  have hbody : wholePart.bodyPart = (cutParts.map Message.bodyPart).flatten := by decide +kernel
  have hcut : Carries cutParts wholePart.bodyPart := by
    rw [hbody]
    exact .more rfl rfl (.more rfl rfl (.last rfl rfl))
  have hwhole : Carries [wholePart] wholePart.bodyPart := .last rfl rfl
  obtain ⟨early, final, hrun, hearly, hfinal, -, hsame⟩ := sent_of_carries .standard hstart hcut
  have hsent : (run .standard httpScope empty (pageStart :: cutParts)).flatMap Sending.sent =
      [pageStart.withLength restyledPage, .wholeBody restyledPage] := by
    rw [hrun, flatMap_sent_of_early hearly, (hfinal _ restyles_wholePart).1]
  exact ⟨hstart, hcut, hwhole, restyles_wholePart, hsent, (hsame _ hwhole).trans hsent⟩

end Exchange
end AtomicCss.Response
