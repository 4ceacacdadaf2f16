import AtomicCss.Proofs.Response.Collected

/-! # Responses that are sent on

While no start is held back, the only messages that are not sent on are the starts of uncompressed
HTML responses. A response without such a start is therefore sent on message by message as it comes,
and so is everything in another scope. -/

namespace AtomicCss.Response.Exchange

variable {settings : Settings} {scope : Text} {exchange : Exchange} {message : Message}

/-! ## One message -/

/-- While no start is held back, a message is sent on exactly if it does not start an HTML
response. -/
theorem receive_eq_pass_iff (hheld : exchange.held = none) :
    receive settings exchange message = pass exchange [message] ↔ ¬message.StartsHtml := by
  constructor
  · intro h hhtml
    rw [receive_of_startsHtml hhtml] at h
    exact List.cons_ne_nil message [] (congrArg Sending.sent h).symm
  · intro hhtml
    cases hstart : message.isStart with
    | true => exact receive_of_isStart hstart hhtml
    | false => exact receive_of_held_eq_none hstart hheld

/-- In another scope every message is sent on. -/
theorem receiveIn_eq_pass_iff (hheld : exchange.held = none) :
    receiveIn settings scope exchange message = pass exchange [message] ↔
      (scope = httpScope → ¬message.StartsHtml) := by
  by_cases hscope : scope = httpScope
  · rw [receiveIn, if_pos hscope, receive_eq_pass_iff hheld, forall_prop_of_true hscope]
  · rw [receiveIn, if_neg hscope]
    exact iff_of_true rfl fun hhttp => absurd hhttp hscope

/-! ## Runs -/

/-- A message that is sent on leaves the exchange as it is, so that the next one finds it without a
start again. -/
theorem run_eq_map_pass_iff (settings : Settings) (scope : Text) (hheld : exchange.held = none)
    (messages : List Message) :
    run settings scope exchange messages = messages.map (fun message => pass exchange [message]) ↔
      ∀ message ∈ messages, scope = httpScope → ¬message.StartsHtml := by
  induction messages with
  | nil => exact iff_of_true rfl fun message hmessage => nomatch hmessage
  | cons message rest ih =>
      rw [run, List.map_cons, List.cons_eq_cons, List.forall_mem_cons,
        ← receiveIn_eq_pass_iff hheld, ← ih]
      refine and_congr_right fun hfirst => ?_
      rw [hfirst]
      exact Iff.rfl

/-- Each message is sent on as it is, in the step in which it comes, and nothing else is sent,
noticed or kept, exactly if the scope is another one or no message starts an HTML response that is
not compressed. Then the messages that are sent are those that came. -/
theorem forwards_unchanged_iff (settings : Settings) (scope : Text) (messages : List Message) :
    (run settings scope empty messages = messages.map (fun message => pass empty [message]) ∧
      (run settings scope empty messages).flatMap Sending.sent = messages) ↔
      (scope = httpScope → ∀ message ∈ messages, ¬message.StartsHtml) := by
  have hrun : run settings scope empty messages = _ ↔ _ :=
    run_eq_map_pass_iff settings scope rfl messages
  constructor
  · rintro ⟨heach, -⟩ hscope message hmessage
    exact hrun.1 heach message hmessage hscope
  · intro h
    have heach := hrun.2 fun message hmessage hscope => h hscope message hmessage
    refine ⟨heach, ?_⟩
    rw [heach, List.flatMap_map]
    exact List.flatMap_singleton' messages

/-- A message that starts a response with these headers. -/
def startWith (headers : Headers) : Message :=
  ⟨Message.startKind, some headers, none, none, []⟩

/-- Starts that are sent on at once: the name of the header or the type is written with capitals, the
first of two types is another one, the body is compressed, or there are no headers. A part of a body
comes between them. -/
def oddStarts : List Message :=
  [startWith [("Content-Type".toList, "text/html".toList)],
    startWith [(Headers.contentType, "Text/html".toList)],
    wholePart,
    startWith [(Headers.contentType, "application/json".toList),
      (Headers.contentType, "text/html".toList)],
    startWith [(Headers.contentEncoding, " GZip".toList), (Headers.contentType, "text/html".toList),
      (Headers.contentEncoding, "identity".toList)],
    ⟨Message.startKind, none, none, none, []⟩]

theorem oddStarts_forwarded :
    (∀ message ∈ oddStarts, ¬message.StartsHtml) ∧
      (run .standard httpScope empty oddStarts).flatMap Sending.sent = oddStarts ∧
      pageStart.StartsHtml ∧
      (run .standard "websocket".toList empty [pageStart, wholePart]).flatMap Sending.sent =
        [pageStart, wholePart] := by
  have hodd : ∀ message ∈ oddStarts, ¬message.StartsHtml := by decide +kernel
  have hother : "websocket".toList ≠ httpScope := by decide
  exact ⟨hodd, ((forwards_unchanged_iff .standard httpScope oddStarts).2 fun _ => hodd).2,
    by decide +kernel,
    ((forwards_unchanged_iff .standard _ [pageStart, wholePart]).2 fun h => absurd h hother).2⟩

end AtomicCss.Response.Exchange
