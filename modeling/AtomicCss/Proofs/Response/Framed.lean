import AtomicCss.Proofs.Response.Forwarded
import AtomicCss.Proofs.Response.Headers
import AtomicCss.Proofs.Response.Order
import Mathlib.Data.List.TakeWhile

/-! # Framed responses

Two messages are sent in one step exactly when a message completes a body that can be restyled. They
are the last start of an HTML response that came, with the number of the bytes that follow in its
headers, and one message with these bytes. This holds at any moment, also where other messages came in
between or a body was sent before. -/

namespace AtomicCss.Response

/-! ## What an exchange keeps -/

/-- The last message that starts an HTML response. -/
def htmlStart? (messages : List Message) : Option Message :=
  (messages.filter fun message => message.StartsHtml).getLast?

/-- The bytes of the parts of a body that come after the first start of an HTML response. -/
def collectedFrom (messages : List Message) : Bytes :=
  bodyOf (messages.dropWhile fun message => ¬message.StartsHtml)

/-- How a start is held back: as it came, or with the number of the bytes that were sent after it. -/
inductive Message.HeldAs (start : Message) : Message → Prop
  | kept : HeldAs start start.kept
  | withLength (body : Bytes) : HeldAs start (start.withLength body)

/-- An exchange holds the last start of an HTML response and has collected the parts of the body since
the first one. -/
structure Exchange.Reflects (exchange : Exchange) (messages : List Message) : Prop where
  held : Option.Rel Message.HeldAs (htmlStart? messages) exchange.held
  parts : exchange.parts.flatten = collectedFrom messages

variable {messages : List Message} {start held message : Message}

theorem htmlStart?_concat_of_startsHtml (messages : List Message) (h : message.StartsHtml) :
    htmlStart? (messages ++ [message]) = some message := by
  rw [htmlStart?, List.filter_append, List.filter_cons_of_pos (by simpa using h), List.filter_nil,
    List.getLast?_concat]

theorem htmlStart?_concat_of_not_startsHtml (messages : List Message)
    (h : ¬message.StartsHtml) :
    htmlStart? (messages ++ [message]) = htmlStart? messages := by
  rw [htmlStart?, List.filter_append, List.filter_cons_of_neg (by simpa using h), List.filter_nil,
    List.append_nil, htmlStart?]

theorem htmlStart?_eq_none_iff :
    htmlStart? messages = none ↔ messages.dropWhile (fun message => ¬message.StartsHtml) = [] := by
  rw [htmlStart?, List.getLast?_eq_none_iff, List.filter_eq_nil_iff, List.dropWhile_eq_nil_iff]
  simp

theorem Message.not_startsHtml_of_isBody (h : message.isBody) : ¬message.StartsHtml := by
  intro hhtml
  have hstart := Message.isStart_of_isBody h
  rw [hhtml.isStart] at hstart
  cases hstart

theorem Message.StartsHtml.isBody_eq_false (h : message.StartsHtml) : message.isBody = false :=
  Bool.eq_false_iff.2 fun hbody => Message.not_startsHtml_of_isBody hbody h

theorem bodyOf_singleton_of_not_isBody (h : message.isBody = false) : bodyOf [message] = [] := by
  rw [bodyOf, List.filter_cons_of_neg (by simp [h]), List.filter_nil, List.flatMap_nil]

theorem collectedFrom_of_eq_none (h : htmlStart? messages = none) : collectedFrom messages = [] := by
  rw [collectedFrom, htmlStart?_eq_none_iff.1 h]
  rfl

/-- Behind a start of an HTML response, parts of the body are collected. -/
theorem collectedFrom_concat_of_eq_some (h : htmlStart? messages = some start) :
    collectedFrom (messages ++ [message]) = collectedFrom messages ++ bodyOf [message] := by
  have hsome : messages.dropWhile (fun message => ¬message.StartsHtml) ≠ [] := by
    rw [Ne, ← htmlStart?_eq_none_iff, h]
    exact Option.some_ne_none start
  rw [collectedFrom, List.dropWhile_append, if_neg (by simpa using hsome), bodyOf_append,
    collectedFrom]

theorem collectedFrom_concat_of_not_isBody (h : message.isBody = false) :
    collectedFrom (messages ++ [message]) = collectedFrom messages := by
  cases hstart : htmlStart? messages with
  | some start =>
      rw [collectedFrom_concat_of_eq_some hstart, bodyOf_singleton_of_not_isBody h, List.append_nil]
  | none =>
      rw [collectedFrom_of_eq_none hstart, collectedFrom, List.dropWhile_append,
        htmlStart?_eq_none_iff.1 hstart, List.isEmpty_nil, if_pos rfl, List.dropWhile_cons]
      split_ifs
      · rfl
      · exact bodyOf_singleton_of_not_isBody h

/-! ## A start that is held back -/

namespace Message.HeldAs

/-- Its headers are given, so that holding it back again changes nothing. -/
theorem kept_eq (h : start.HeldAs held) : held.kept = held := by
  cases h <;> rfl

theorem withLength_eq (h : start.HeldAs held) (body : Bytes) :
    held.withLength body = start.withLength body := by
  cases h with
  | kept => rfl
  | withLength earlier =>
      rw [Message.withLength, Message.withLength]
      exact congrArg (fun headers => { start with headers := some headers })
        (Headers.set_set Headers.contentLength _ _ start.headerList)

/-- The number of bytes says nothing about the charset. -/
theorem charsetName_eq (h : start.HeldAs held) :
    held.headerList.charsetName = start.headerList.charsetName := by
  cases h with
  | kept => rfl
  | withLength body =>
      have htype : Headers.get? Headers.contentType (start.withLength body).headerList =
          Headers.get? Headers.contentType start.headerList :=
        Headers.get?_set_of_ne (by decide) _ _
      rw [Headers.charsetName, htype, Headers.charsetName]

end Message.HeldAs

namespace Exchange

variable {settings : Settings} {exchange : Exchange} {sending : Sending} {parts : List Bytes}

theorem sent_release_of_heldAs (h : start.HeldAs held) {bytes : Bytes}
    (hrestyles : Restyles settings start.headerList.charsetName parts.flatten bytes) :
    (release settings held parts).sent = [start.withLength bytes, .wholeBody bytes] := by
  rw [← h.charsetName_eq] at hrestyles
  rw [← h.withLength_eq, ← (release_of_restyles hrestyles).1, h.kept_eq]

/-- A start and the parts of the body stay after they were sent or could not be sent. -/
theorem exchange_release_of_heldAs (settings : Settings) (h : start.HeldAs held)
    (parts : List Bytes) :
    ∃ again, start.HeldAs again ∧ (release settings held parts).exchange = ⟨some again, parts⟩ := by
  cases hrender : (renderBytes settings held.headerList.charsetName parts.flatten).outcome with
  | error fault => exact ⟨held, h, by simp only [release, hrender]⟩
  | ok bytes =>
      refine ⟨start.withLength bytes, .withLength bytes, ?_⟩
      rw [← h.withLength_eq]
      simp only [release, hrender]
      rfl

/-! ## One message -/

/-- What can become of a message. -/
inductive Receives (settings : Settings) (exchange : Exchange) (message : Message) : Sending → Prop
  | holds (hhtml : message.StartsHtml) :
      Receives settings exchange message (pass ⟨some message.kept, exchange.parts⟩ [])
  | forwards (hhtml : ¬message.StartsHtml) (hbody : message.isBody → exchange.held = none) :
      Receives settings exchange message (pass exchange [message])
  | collects {held : Message} (hheld : exchange.held = some held) (hbody : message.isBody)
      (hmore : message.hasMore) :
      Receives settings exchange message
        (pass ⟨some held, exchange.parts ++ [message.bodyPart]⟩ [])
  | releases {held : Message} (hheld : exchange.held = some held) (hbody : message.isBody)
      (hlast : message.hasMore = false) :
      Receives settings exchange message
        (release settings held (exchange.parts ++ [message.bodyPart]))

theorem receives (settings : Settings) (exchange : Exchange) (message : Message) :
    Receives settings exchange message (receive settings exchange message) := by
  by_cases hhtml : message.StartsHtml
  · rw [receive_of_startsHtml hhtml]
    exact .holds hhtml
  · cases hheld : exchange.held with
    | none =>
        rw [(receive_eq_pass_iff hheld).2 hhtml]
        exact .forwards hhtml fun _ => hheld
    | some held =>
        cases hbody : message.isBody with
        | false =>
            have hforwards : receive settings exchange message = pass exchange [message] := by
              cases hstart : message.isStart with
              | true => exact receive_of_isStart hstart hhtml
              | false => exact receive_of_not_isBody hstart hbody
            rw [hforwards]
            exact .forwards hhtml fun htrue => nomatch hbody.symm.trans htrue
        | true =>
            cases hmore : message.hasMore with
            | true =>
                rw [receive_of_hasMore hheld hbody hmore]
                exact .collects hheld hbody hmore
            | false =>
                rw [receive_of_last hheld hbody hmore]
                exact .releases hheld hbody hmore

/-! ## Many messages -/

theorem Reflects.exists_start (h : exchange.Reflects messages) (hheld : exchange.held = some held) :
    ∃ start, htmlStart? messages = some start ∧ start.HeldAs held := by
  have hrel := h.held
  rw [hheld] at hrel
  generalize htmlStart? messages = start? at hrel ⊢
  cases hrel with
  | some hrel => exact ⟨_, rfl, hrel⟩

theorem Reflects.exists_held (h : exchange.Reflects messages)
    (hstart : htmlStart? messages = some start) :
    ∃ held, exchange.held = some held ∧ start.HeldAs held := by
  have hrel := h.held
  rw [hstart] at hrel
  generalize exchange.held = held? at hrel ⊢
  cases hrel with
  | some hrel => exact ⟨_, rfl, hrel⟩

theorem Reflects.step (h : exchange.Reflects messages)
    (hreceives : Receives settings exchange message sending) :
    sending.exchange.Reflects (messages ++ [message]) := by
  cases hreceives with
  | holds hhtml =>
      refine ⟨?_, ?_⟩
      · rw [htmlStart?_concat_of_startsHtml messages hhtml]
        exact .some .kept
      · rw [collectedFrom_concat_of_not_isBody hhtml.isBody_eq_false]
        exact h.parts
  | forwards hhtml hbody =>
      have hsame := htmlStart?_concat_of_not_startsHtml messages hhtml
      refine ⟨hsame ▸ h.held, ?_⟩
      cases hkind : message.isBody with
      | false =>
          rw [collectedFrom_concat_of_not_isBody hkind]
          exact h.parts
      | true =>
          -- nothing is held back, so the part is not collected
          have hnone : htmlStart? messages = none := by
            cases hstart : htmlStart? messages with
            | none => rfl
            | some start =>
                obtain ⟨held, hheld, -⟩ := h.exists_held hstart
                exact nomatch (hbody hkind).symm.trans hheld
          rw [collectedFrom_of_eq_none (hsame.trans hnone), ← collectedFrom_of_eq_none hnone]
          exact h.parts
  | collects hheld hbody hmore =>
      obtain ⟨start, hstart, hheldAs⟩ := h.exists_start hheld
      refine ⟨?_, ?_⟩
      · rw [htmlStart?_concat_of_not_startsHtml _ (Message.not_startsHtml_of_isBody hbody), hstart]
        exact .some hheldAs
      · rw [collectedFrom_concat_of_eq_some hstart, bodyOf_singleton hbody, ← h.parts]
        exact List.flatten_concat
  | releases hheld hbody hlast =>
      obtain ⟨start, hstart, hheldAs⟩ := h.exists_start hheld
      obtain ⟨again, hagain, hexchange⟩ := exchange_release_of_heldAs settings hheldAs
        (exchange.parts ++ [message.bodyPart])
      rw [hexchange]
      refine ⟨?_, ?_⟩
      · rw [htmlStart?_concat_of_not_startsHtml _ (Message.not_startsHtml_of_isBody hbody), hstart]
        exact .some hagain
      · rw [collectedFrom_concat_of_eq_some hstart, bodyOf_singleton hbody, ← h.parts]
        exact List.flatten_concat

/-- The exchange after some messages. -/
def after (settings : Settings) (exchange : Exchange) (messages : List Message) : Exchange :=
  messages.foldl (fun exchange message => (receive settings exchange message).exchange) exchange

theorem reflects_after (settings : Settings) (messages : List Message) :
    (after settings empty messages).Reflects messages := by
  induction messages using List.reverseRecOn with
  | nil => exact ⟨.none, rfl⟩
  | append_singleton messages message ih =>
      rw [after, List.foldl_concat]
      exact ih.step (receives settings _ message)

theorem run_concat (settings : Settings) (exchange : Exchange) (messages : List Message)
    (message : Message) :
    run settings httpScope exchange (messages ++ [message]) =
      run settings httpScope exchange messages ++
        [receive settings (after settings exchange messages) message] := by
  induction messages generalizing exchange with
  | nil => exact run_cons_of_httpScope []
  | cons first rest ih =>
      rw [List.cons_append, run_cons_of_httpScope, run_cons_of_httpScope, ih, List.cons_append]
      rfl

/-! ## Two messages in one step -/

/-- Two messages are sent only when the last part of a body comes that can be restyled. -/
theorem Reflects.exists_of_pair (h : exchange.Reflects messages)
    (hreceives : Receives settings exchange message sending) {first second : Message}
    (hsent : sending.sent = [first, second]) :
    ∃ start bytes, htmlStart? messages = some start ∧ message.isBody ∧ message.hasMore = false ∧
      Restyles settings start.headerList.charsetName
        (collectedFrom messages ++ message.bodyPart) bytes ∧
      first = start.withLength bytes ∧ second = .wholeBody bytes := by
  cases hreceives with
  | holds hhtml => cases hsent
  | forwards hhtml hbody => cases hsent
  | collects hheld hbody hmore => cases hsent
  | @releases held hheld hbody hlast =>
      obtain ⟨start, hstart, hheldAs⟩ := h.exists_start hheld
      by_cases hrestyles : ∃ bytes, Restyles settings start.headerList.charsetName
          (exchange.parts ++ [message.bodyPart]).flatten bytes
      · obtain ⟨bytes, hbytes⟩ := hrestyles
        rw [sent_release_of_heldAs hheldAs hbytes] at hsent
        obtain ⟨rfl, hsecond⟩ := List.cons.inj hsent
        obtain ⟨rfl, -⟩ := List.cons.inj hsecond
        rw [List.flatten_concat, h.parts] at hbytes
        exact ⟨start, bytes, hstart, hbody, hlast, hbytes, rfl, rfl⟩
      · rw [← hheldAs.charsetName_eq] at hrestyles
        have hnone := (release_of_not_restyles hrestyles).1
        rw [hheldAs.kept_eq, hsent] at hnone
        cases hnone

theorem Reflects.sent_receive (h : exchange.Reflects messages)
    (hstart : htmlStart? messages = some start) (hbody : message.isBody)
    (hlast : message.hasMore = false) {bytes : Bytes}
    (hrestyles : Restyles settings start.headerList.charsetName
      (collectedFrom messages ++ message.bodyPart) bytes) :
    (receive settings exchange message).sent = [start.withLength bytes, .wholeBody bytes] := by
  obtain ⟨held, hheld, hheldAs⟩ := h.exists_held hstart
  rw [← h.parts, ← List.flatten_concat] at hrestyles
  rw [receive_of_last hheld hbody hlast, sent_release_of_heldAs hheldAs hrestyles]

end Exchange

/-- A start as it is sent before a body: the first header with the length of the body, or a new one at
the end, gives the number of its bytes, there is no other such header, and all else is as it came. -/
structure Message.IsFramed (start : Message) (body : Bytes) (framed : Message) : Prop where
  fields : framed = { start with headers := some framed.headerList }
  headers : Headers.Sets Headers.contentLength (Text.ofNat body.length) start.headerList
    framed.headerList

theorem Message.isFramed_iff {body : Bytes} {framed : Message} :
    start.IsFramed body framed ↔ framed = start.withLength body := by
  constructor
  · rintro ⟨hfields, hheaders⟩
    rw [hfields, Headers.sets_iff.1 hheaders]
    rfl
  · rintro rfl
    exact ⟨rfl, Headers.sets_iff.2 rfl⟩

namespace Exchange

/-- Two messages are sent in the step of a message exactly if it is the last part of a body that can be
restyled and a start of an HTML response came before. They are the last such start, framed for the
restyled body, and this body. -/
theorem sends_framed_iff (settings : Settings) (messages : List Message)
    (message first second : Message) :
    (∃ earlier final, run settings httpScope empty (messages ++ [message]) = earlier ++ [final] ∧
      final.sent = [first, second]) ↔
      ∃ start body, htmlStart? messages = some start ∧ message.isBody ∧ message.hasMore = false ∧
        Restyles settings start.headerList.charsetName
          (collectedFrom messages ++ message.bodyPart) body ∧
        start.IsFramed body first ∧ second = .wholeBody body := by
  have hreflects := reflects_after settings messages
  rw [run_concat]
  constructor
  · rintro ⟨earlier, final, hrun, hsent⟩
    obtain ⟨-, hfinal⟩ := List.append_inj' hrun rfl
    obtain rfl := List.singleton_inj.1 hfinal
    obtain ⟨start, body, hstart, hbody, hlast, hrestyles, hfirst, hsecond⟩ :=
      hreflects.exists_of_pair (receives settings _ message) hsent
    exact ⟨start, body, hstart, hbody, hlast, hrestyles, Message.isFramed_iff.2 hfirst, hsecond⟩
  · rintro ⟨start, body, hstart, hbody, hlast, hrestyles, hfirst, rfl⟩
    obtain rfl := Message.isFramed_iff.1 hfirst
    exact ⟨_, _, rfl, hreflects.sent_receive hstart hbody hlast hrestyles⟩

/-- A start with three headers for the length of the body, one of them written with capitals, and a
header that stands twice. -/
def lengthsStart : Message :=
  startWith [("Content-Length".toList, ['1']), ("set-cookie".toList, ['a']),
    (Headers.contentLength, ['2']), (Headers.contentType, "text/html; charset=UTF8".toList),
    (Headers.contentLength, ['3']), ("set-cookie".toList, ['a'])]

/-- The headers of that start as it is sent before the restyled page. -/
def framedLengths : Headers :=
  [("Content-Length".toList, ['1']), ("set-cookie".toList, ['a']),
    (Headers.contentLength, "78".toList), (Headers.contentType, "text/html; charset=UTF8".toList),
    ("set-cookie".toList, ['a'])]

/-- The page is sent after the start with one length, though headers that follow the body came before
it. -/
theorem lengthsStart_framed :
    ∃ earlier final, run .standard httpScope empty ([lengthsStart, trailers] ++ [wholePart]) =
        earlier ++ [final] ∧
      final.sent = [startWith framedLengths, .wholeBody restyledPage] := by
  have hstart : htmlStart? [lengthsStart, trailers] = some lengthsStart := by
    refine (htmlStart?_concat_of_not_startsHtml [lengthsStart] ?_).trans
      (htmlStart?_concat_of_startsHtml [] ?_)
    · decide +kernel
    · decide +kernel
  have hrestyles : Restyles .standard lengthsStart.headerList.charsetName
      (collectedFrom [lengthsStart, trailers] ++ wholePart.bodyPart) restyledPage := by
    have hcharset : lengthsStart.headerList.charsetName = pageStart.headerList.charsetName := by
      decide +kernel
    have hnothing : collectedFrom [lengthsStart, trailers] = [] := by decide +kernel
    rw [hcharset, hnothing, List.nil_append]
    exact restyles_wholePart
  have hheaders : framedLengths = lengthsStart.headerList.set Headers.contentLength
      (Text.ofNat restyledPage.length) := by
    decide +kernel
  exact (sends_framed_iff .standard [lengthsStart, trailers] wholePart _ _).2
    ⟨lengthsStart, restyledPage, hstart, rfl, rfl, hrestyles,
      Message.isFramed_iff.2 (congrArg startWith hheaders), rfl⟩

end Exchange
end AtomicCss.Response
