import AtomicCss.Proofs.Response.Collected

/-! # The first message that is sent

A start that is held back is sent with the last part of a body that can be restyled. A message that
is neither a start nor a part of the body is sent on when it comes. So the start is the first
message that is sent unless such a message comes while the start is held back. -/

namespace AtomicCss.Response

/-- Nothing was sent, or first of all the start, as it is or with the number of bytes of a body. -/
def StartsWith (start : Message) (sent : List Message) : Prop :=
  ∀ first ∈ sent.head?, first = start ∨ ∃ bytes, first = start.withLength bytes

theorem startsWith_nil (start : Message) : StartsWith start [] := by
  intro first hfirst
  cases hfirst

theorem startsWith_cons {start first : Message} {rest : List Message} :
    StartsWith start (first :: rest) ↔
      first = start ∨ ∃ bytes, first = start.withLength bytes := by
  simp [StartsWith, eq_comm]

/-- The bytes of the parts of a body among some messages. -/
def bodyOf (messages : List Message) : Bytes :=
  (messages.filter Message.isBody).flatMap Message.bodyPart

/-- Among the messages is the last part of a body that can be restyled, together with the bytes
collected before. -/
def Completes (settings : Settings) (charsetName : Text) (collected : Bytes)
    (messages : List Message) : Prop :=
  ∃ before last after, messages = before ++ last :: after ∧ last.isBody ∧ last.hasMore = false ∧
    ∃ bytes, Restyles settings charsetName (collected ++ bodyOf (before ++ [last])) bytes

variable {settings : Settings} {charsetName : Text} {collected : Bytes} {message : Message}

theorem bodyOf_append (first second : List Message) :
    bodyOf (first ++ second) = bodyOf first ++ bodyOf second := by
  rw [bodyOf, List.filter_append, List.flatMap_append, bodyOf, bodyOf]

theorem bodyOf_cons (messages : List Message) :
    bodyOf (message :: messages) = bodyOf [message] ++ bodyOf messages :=
  bodyOf_append [message] messages

theorem bodyOf_singleton (hbody : message.isBody) : bodyOf [message] = message.bodyPart := by
  rw [bodyOf, List.filter_cons_of_pos hbody, List.filter_nil, List.flatMap_singleton]

theorem not_completes_nil : ¬Completes settings charsetName collected [] := by
  rintro ⟨before, last, after, hsplit, -⟩
  exact List.append_ne_nil_of_right_ne_nil before (List.cons_ne_nil last after) hsplit.symm

/-- Either the first message completes a body, or one of the others does. -/
theorem completes_cons {rest : List Message} :
    Completes settings charsetName collected (message :: rest) ↔
      (message.isBody ∧ message.hasMore = false ∧
        ∃ bytes, Restyles settings charsetName (collected ++ bodyOf [message]) bytes) ∨
      Completes settings charsetName (collected ++ bodyOf [message]) rest := by
  constructor
  · rintro ⟨before, last, after, hsplit, hbody, hlast, hbytes⟩
    cases before with
    | nil =>
        obtain ⟨rfl, -⟩ := List.cons.inj hsplit
        exact Or.inl ⟨hbody, hlast, hbytes⟩
    | cons first before =>
        obtain ⟨rfl, rfl⟩ := List.cons.inj hsplit
        rw [List.cons_append, bodyOf_cons, ← List.append_assoc] at hbytes
        exact Or.inr ⟨before, last, after, rfl, hbody, hlast, hbytes⟩
  · rintro (⟨hbody, hlast, hbytes⟩ | ⟨before, last, after, rfl, hbody, hlast, hbytes⟩)
    · exact ⟨[], message, rest, rfl, hbody, hlast, hbytes⟩
    · refine ⟨message :: before, last, after, rfl, hbody, hlast, ?_⟩
      rwa [List.cons_append, bodyOf_cons, ← List.append_assoc]

/-- A message of another kind comes only after the body is complete. -/
def WaitsForBody (settings : Settings) (charsetName : Text) (collected : Bytes)
    (messages : List Message) : Prop :=
  ∀ before message, before ++ [message] <+: messages → message.isBody = false →
    Completes settings charsetName collected before

theorem waitsForBody_nil : WaitsForBody settings charsetName collected [] := by
  intro before message hprefix
  exact absurd (List.prefix_nil.1 hprefix) (List.append_ne_nil_of_right_ne_nil _ (by simp))

/-- Where the first message is a part of the body, what matters is whether it completes the body. -/
theorem waitsForBody_cons {rest : List Message} (hbody : message.isBody) :
    WaitsForBody settings charsetName collected (message :: rest) ↔
      (message.hasMore = false ∧
        ∃ bytes, Restyles settings charsetName (collected ++ message.bodyPart) bytes) ∨
      WaitsForBody settings charsetName (collected ++ message.bodyPart) rest := by
  rw [← bodyOf_singleton hbody]
  constructor
  · intro h
    by_cases hcomplete : message.hasMore = false ∧
        ∃ bytes, Restyles settings charsetName (collected ++ bodyOf [message]) bytes
    · exact Or.inl hcomplete
    · refine Or.inr fun before other hprefix hother => ?_
      have hcompletes := h (message :: before) other (List.cons_prefix_cons.2 ⟨rfl, hprefix⟩) hother
      exact (completes_cons.1 hcompletes).resolve_left fun hfirst => hcomplete hfirst.2
  · intro h before other hprefix hother
    cases before with
    | nil =>
        obtain ⟨rfl, -⟩ := List.cons_prefix_cons.1 hprefix
        rw [hbody] at hother
        cases hother
    | cons first before =>
        obtain ⟨rfl, hbefore⟩ := List.cons_prefix_cons.1 hprefix
        rcases h with hcomplete | hrest
        · exact completes_cons.2 (Or.inl ⟨hbody, hcomplete⟩)
        · exact completes_cons.2 (Or.inr (hrest before other hbefore hother))

namespace Exchange

/-- What is sent on when some messages come. -/
def sentFrom (settings : Settings) (exchange : Exchange) (messages : List Message) :
    List Message :=
  (run settings httpScope exchange messages).flatMap Sending.sent

variable {start : Message} {rest : List Message} {parts : List Bytes}

theorem sentFrom_cons (exchange : Exchange) :
    sentFrom settings exchange (message :: rest) =
      (receive settings exchange message).sent ++
        sentFrom settings (receive settings exchange message).exchange rest := by
  rw [sentFrom, run_cons_of_httpScope, List.flatMap_cons, sentFrom]

/-- A body that cannot be restyled stays collected. -/
theorem exchange_release_of_not_restyles
    (h : ¬∃ bytes, Restyles settings start.headerList.charsetName parts.flatten bytes) :
    (release settings start.kept parts).exchange = ⟨some start.kept, parts⟩ := by
  cases hrender : (renderBytes settings start.kept.headerList.charsetName parts.flatten).outcome with
  | error fault => simp only [release, hrender]
  | ok bytes => exact absurd ⟨bytes, outcome_renderBytes_eq_ok_iff.1 hrender⟩ h

/-- At every moment of a run, the start is the first message that was sent, if there is one. -/
def SendsStartFirst (settings : Settings) (start : Message) (exchange : Exchange)
    (messages : List Message) : Prop :=
  ∀ seen, seen <+: messages → StartsWith start (sentFrom settings exchange seen)

/-- Where nothing is sent for the first message, the others decide. -/
theorem sendsStartFirst_cons {exchange next : Exchange}
    (hnext : (receive settings exchange message).exchange = next)
    (hsent : (receive settings exchange message).sent = []) :
    SendsStartFirst settings start exchange (message :: rest) ↔
      SendsStartFirst settings start next rest := by
  subst hnext
  constructor
  · intro h seen hseen
    have hfirst := h (message :: seen) (List.cons_prefix_cons.2 ⟨rfl, hseen⟩)
    rwa [sentFrom_cons, hsent, List.nil_append] at hfirst
  · intro h seen hseen
    cases seen with
    | nil => exact startsWith_nil start
    | cons first seen =>
        obtain ⟨rfl, htail⟩ := List.cons_prefix_cons.1 hseen
        rw [sentFrom_cons, hsent, List.nil_append]
        exact h seen htail

/-- Where the start is sent for the first message, what follows does not matter. -/
theorem sendsStartFirst_of_sent {exchange : Exchange} {first : Message} {sent : List Message}
    (hsent : (receive settings exchange message).sent = first :: sent)
    (hfirst : StartsWith start (first :: sent)) :
    SendsStartFirst settings start exchange (message :: rest) := by
  intro seen hseen
  cases seen with
  | nil => exact startsWith_nil start
  | cons other seen =>
      obtain ⟨rfl, -⟩ := List.cons_prefix_cons.1 hseen
      rw [sentFrom_cons, hsent, List.cons_append]
      exact startsWith_cons.2 (startsWith_cons.1 hfirst)

/-- While a start is held back, it is the first message to be sent exactly if messages of another
kind wait for the body. -/
theorem sendsStartFirst_of_held (hstart : start.isStart)
    (hrest : ∀ message ∈ rest, message.isStart = false) :
    SendsStartFirst settings start ⟨some start.kept, parts⟩ rest ↔
      WaitsForBody settings start.headerList.charsetName parts.flatten rest := by
  induction rest generalizing parts with
  | nil =>
      refine iff_of_true ?_ waitsForBody_nil
      intro seen hseen
      rw [List.prefix_nil.1 hseen]
      exact startsWith_nil start
  | cons message rest ih =>
      obtain ⟨hmessage, hrest⟩ := List.forall_mem_cons.1 hrest
      cases hbody : message.isBody with
      | false =>
          -- the message is sent on, and the start was not sent before it
          refine iff_of_false ?_ ?_
          · intro h
            have hfirst := h [message] (List.cons_prefix_cons.2 ⟨rfl, List.nil_prefix⟩)
            rw [sentFrom_cons, receive_of_not_isBody hmessage hbody] at hfirst
            rcases startsWith_cons.1 hfirst with rfl | ⟨bytes, rfl⟩
            · rw [hstart] at hmessage
              cases hmessage
            · rw [show (start.withLength bytes).isStart = start.isStart from rfl, hstart] at hmessage
              cases hmessage
          · intro h
            exact not_completes_nil (h [] message (List.cons_prefix_cons.2
              ⟨rfl, List.nil_prefix⟩) hbody)
      | true =>
          rw [waitsForBody_cons hbody]
          have hflatten : parts.flatten ++ message.bodyPart =
              (parts ++ [message.bodyPart]).flatten := by
            rw [List.flatten_append, List.flatten_singleton]
          rw [hflatten, ← ih hrest]
          cases hmore : message.hasMore with
          | true =>
              have hreceive : receive settings ⟨some start.kept, parts⟩ message = _ :=
                receive_of_hasMore rfl hbody hmore
              rw [sendsStartFirst_cons (congrArg Sending.exchange hreceive)
                (congrArg Sending.sent hreceive)]
              simp only [Bool.true_eq_false, false_and, false_or]
              exact Iff.rfl
          | false =>
              have hreceive : receive settings ⟨some start.kept, parts⟩ message = _ :=
                receive_of_last rfl hbody hmore
              by_cases hrestyles : ∃ bytes, Restyles settings start.headerList.charsetName
                  (parts ++ [message.bodyPart]).flatten bytes
              · obtain ⟨bytes, hbytes⟩ := hrestyles
                have hsent := (release_of_restyles hbytes).1
                refine iff_of_true (sendsStartFirst_of_sent ((congrArg Sending.sent
                  hreceive).trans hsent) ?_) (Or.inl ⟨rfl, bytes, hbytes⟩)
                exact startsWith_cons.2 (Or.inr ⟨bytes, rfl⟩)
              · have hsent := (release_of_not_restyles hrestyles).1
                rw [sendsStartFirst_cons ((congrArg Sending.exchange hreceive).trans
                  (exchange_release_of_not_restyles hrestyles))
                  ((congrArg Sending.sent hreceive).trans hsent)]
                simp only [hrestyles, and_false, false_or]

/-- The start of a response is the first message that is sent, at every moment, exactly if it is not
held back or messages that are neither a start nor a part of the body come only after a body that can
be restyled is complete. -/
theorem sendsStartFirst_iff (settings : Settings) {start : Message} (hstart : start.isStart)
    {rest : List Message} (hrest : ∀ message ∈ rest, message.isStart = false) :
    SendsStartFirst settings start empty (start :: rest) ↔
      (start.StartsHtml → WaitsForBody settings start.headerList.charsetName [] rest) := by
  by_cases hhtml : start.StartsHtml
  · have hreceive : receive settings empty start = _ := receive_of_startsHtml hhtml
    rw [sendsStartFirst_cons (congrArg Sending.exchange hreceive) (congrArg Sending.sent hreceive)]
    constructor
    · intro h _
      exact (sendsStartFirst_of_held hstart hrest).1 h
    · intro h
      exact (sendsStartFirst_of_held hstart hrest).2 (h hhtml)
  · have hreceive : receive settings empty start = _ := receive_of_isStart hstart hhtml
    exact iff_of_true (sendsStartFirst_of_sent (congrArg Sending.sent hreceive)
      (startsWith_cons.2 (Or.inl rfl))) fun h => absurd h hhtml

/-- Headers that are sent after the body. -/
def trailers : Message := ⟨"http.response.trailers".toList, none, none, none, []⟩

theorem trailers_sent_after_start :
    pageStart.isStart ∧ (∀ message ∈ [wholePart, trailers], message.isStart = false) ∧
      SendsStartFirst .standard pageStart empty [pageStart, wholePart, trailers] := by
  have hrest : ∀ message ∈ [wholePart, trailers], message.isStart = false := by decide +kernel
  refine ⟨rfl, hrest, (sendsStartFirst_iff .standard rfl hrest).2 fun _ => ?_⟩
  exact (waitsForBody_cons rfl).2 (Or.inl ⟨rfl, restyledPage, restyles_wholePart⟩)

/-- A message that names a file in the place of a body. -/
def pathMessage : Message :=
  ⟨"http.response.pathsend".toList, none, none, none, [("path".toList, .text "/page.html".toList)]⟩

/-- A file is named to the server though the start of its response is still held back. -/
theorem pathMessage_sent_before_start :
    pageStart.isStart ∧ (∀ message ∈ [pathMessage], message.isStart = false) ∧
      sentFrom .standard empty [pageStart, pathMessage] = [pathMessage] ∧
      ¬SendsStartFirst .standard pageStart empty [pageStart, pathMessage] := by
  have hsent : sentFrom .standard empty [pageStart, pathMessage] = [pathMessage] := by
    have hstart : pageStart.StartsHtml := Message.startsHtml_iff.2 (by decide +kernel)
    rw [sentFrom_cons, receive_of_startsHtml hstart, sentFrom_cons, receive_of_not_isBody rfl rfl]
    rfl
  refine ⟨rfl, by decide +kernel, hsent, fun h => ?_⟩
  have hfirst := h _ List.prefix_rfl
  rw [hsent] at hfirst
  rcases startsWith_cons.1 hfirst with hkind | ⟨bytes, hkind⟩
  · exact absurd (congrArg Message.kind hkind) (by decide)
  · exact absurd (congrArg Message.kind hkind) (by
      show pathMessage.kind ≠ Message.startKind
      decide)

end Exchange
end AtomicCss.Response
