import AtomicCss.Proofs.Pass.Flushed

/-! # Nested passes

Passes are nested if none is entered while it is open and the one that is left is always the innermost
open one. Each open pass then remembers the pass around it. So the innermost open pass is the active
one, and leaving it makes that pass active which was active before it was entered. -/

namespace AtomicCss.Session

/-- What a step does to the passes that are open, the innermost one first. -/
inductive Nests : List Nat → Nat × PassAction → List Nat → Prop
  | enter {opened : List Nat} {index : Nat} (hnew : index ∉ opened) :
      Nests opened (index, .enter) (index :: opened)
  | leave {opened : List Nat} {index : Nat} : Nests (index :: opened) (index, .leave) opened
  | onSheet {opened : List Nat} {index : Nat} {action : PassAction} (haction : action.isOnSheet) :
      Nests opened (index, action) opened

/-- These passes are open after some nested steps. -/
inductive Opens : List (Nat × PassAction) → List Nat → Prop
  | nil : Opens [] []
  | concat {steps : List (Nat × PassAction)} {opened opened' : List Nat} {step : Nat × PassAction}
      (h : Opens steps opened) (hstep : Nests opened step opened') :
      Opens (steps ++ [step]) opened'

/-- The pass that was active when a pass was entered, until it is left. -/
def remembered (index : Nat) (session : Session) : Option (Option Nat) :=
  session.passes[index]?.bind PassState.previous

/-- The innermost open pass is active, or else the pass `outside`, and each open pass remembers what is
active outside it. -/
structure Tracks (outside : Option Nat) (session : Session) (opened : List Nat) : Prop where
  active : session.active = opened.head?.or outside
  remembered : ∀ index outer, index :: outer <:+ opened →
    session.remembered index = some (outer.head?.or outside)

variable {session : Session} {steps : List (Nat × PassAction)} {step : Nat × PassAction}
  {opened opened' : List Nat} {index other : Nat} {action : PassAction} {outside : Option Nat}

/-! ## One step -/

theorem remembered_act_of_ne (h : other ≠ index) (action : PassAction) (session : Session) :
    remembered index (act other action session).state = remembered index session := by
  rw [remembered, getElem?_passes_act_of_ne h, remembered]

theorem act_enter (h : index < session.passes.length) :
    (act index .enter session).state.active = some index ∧
      remembered index (act index .enter session).state = some session.active := by
  rw [act, List.getElem?_eq_getElem h]
  simp [remembered, h]

theorem active_act_leave {previous : Option Nat} (h : remembered index session = some previous) :
    (act index .leave session).state.active = previous := by
  obtain ⟨pass, hpass, hprevious⟩ := Option.bind_eq_some_iff.1 h
  rw [act, hpass]
  simp [hprevious]

theorem rules_act_leave (index : Nat) (session : Session) :
    rules index (act index .leave session).state = [] := by
  cases hview : view index session with
  | none =>
      have hrules : rules index session = [] := by
        rw [rules_eq_view, hview]
        rfl
      rw [act_of_view_eq_none hview]
      exact hrules
  | some pass => exact rules_of_view (view_act hview .leave)

/-- An action that works on the sheet leaves alone what is active and what is remembered. -/
theorem act_keeps_nesting (haction : action.isOnSheet) (index : Nat) (session : Session) :
    (act index action session).state.active = session.active ∧
      ∀ other, remembered other (act index action session).state = remembered other session := by
  cases hpass : session.passes[index]? with
  | none =>
      rw [act, hpass]
      exact ⟨rfl, fun _ => rfl⟩
  | some pass =>
      have hstate : (act index action session).state = ⟨session.passes.set index
          { pass with sheet := (onSheet pass.settings action pass.sheet).state },
          session.active⟩ := by
        rw [act, hpass]
        cases action <;> first | rfl | cases haction
      refine ⟨by rw [hstate], fun other => ?_⟩
      by_cases hother : index = other
      · subst hother
        rw [hstate, remembered, List.getElem?_set_self', hpass, remembered, hpass]
        rfl
      · exact remembered_act_of_ne hother action session

theorem length_passes_act (index : Nat) (action : PassAction) (session : Session) :
    (act index action session).state.passes.length = session.passes.length := by
  rw [act]
  cases session.passes[index]? with
  | none => rfl
  | some pass => cases action <;> exact List.length_set

/-- A nested step keeps track of the open passes. -/
theorem Tracks.after_step (h : Tracks outside session opened) (hnodup : opened.Nodup)
    (hindex : step.1 < session.passes.length) (hstep : Nests opened step opened') :
    Tracks outside (act step.1 step.2 session).state opened' := by
  cases hstep with
  | @enter _ index hnew =>
      obtain ⟨hactive, hremembered⟩ := act_enter hindex
      refine ⟨hactive, fun inner outer hsuffix => ?_⟩
      rcases List.suffix_cons_iff.1 hsuffix with hwhole | houter
      · obtain ⟨rfl, rfl⟩ := List.cons.inj hwhole
        rw [hremembered, h.active]
      · have hne : index ≠ inner := by
          rintro rfl
          exact hnew (houter.subset List.mem_cons_self)
        rw [remembered_act_of_ne hne, h.remembered inner outer houter]
  | @leave _ index =>
      obtain ⟨hindex, -⟩ := List.nodup_cons.1 hnodup
      refine ⟨active_act_leave (h.remembered index opened' List.suffix_rfl),
        fun inner outer hsuffix => ?_⟩
      have hne : index ≠ inner := by
        rintro rfl
        exact hindex (hsuffix.subset List.mem_cons_self)
      rw [remembered_act_of_ne hne,
        h.remembered inner outer (hsuffix.trans (List.suffix_cons index opened'))]
  | @onSheet _ index action haction =>
      obtain ⟨hactive, hremembered⟩ := act_keeps_nesting haction index session
      refine ⟨hactive.trans h.active, fun inner outer hsuffix => ?_⟩
      rw [hremembered, h.remembered inner outer hsuffix]

/-! ## Many steps -/

theorem after_concat (steps : List (Nat × PassAction)) (step : Nat × PassAction)
    (session : Session) :
    after (steps ++ [step]) session = (act step.1 step.2 (after steps session)).state :=
  List.foldl_concat _ _ _ _

theorem length_passes_after (steps : List (Nat × PassAction)) (session : Session) :
    (after steps session).passes.length = session.passes.length := by
  induction steps using List.reverseRecOn with
  | nil => rfl
  | append_singleton steps step ih => rw [after_concat, length_passes_act, ih]

/-- No pass is open twice. -/
theorem Opens.nodup (h : Opens steps opened) : opened.Nodup := by
  induction h with
  | nil => exact List.nodup_nil
  | concat h hstep ih =>
      cases hstep with
      | enter hnew => exact List.nodup_cons.2 ⟨hnew, ih⟩
      | leave => exact (List.nodup_cons.1 ih).2
      | onSheet haction => exact ih

theorem tracks_after (h : Opens steps opened)
    (hsteps : ∀ step ∈ steps, step.1 < session.passes.length) :
    Tracks session.active (after steps session) opened := by
  induction h with
  | nil => exact ⟨rfl, fun index outer hsuffix => absurd (List.suffix_nil.1 hsuffix) (by simp)⟩
  | @concat steps opened opened' step h hstep ih =>
      obtain ⟨hsteps, hlast⟩ := List.forall_mem_append.1 hsteps
      rw [after_concat]
      refine (ih hsteps).after_step h.nodup ?_ hstep
      rw [length_passes_after]
      exact hlast step List.mem_cons_self

theorem Nests.unique {left right : List Nat} (h : Nests opened step left)
    (h' : Nests opened step right) : left = right := by
  cases h with
  | enter hnew =>
      cases h' with
      | enter hnew' => rfl
      | onSheet haction => cases haction
  | leave =>
      cases h' with
      | leave => rfl
      | onSheet haction => cases haction
  | onSheet haction =>
      cases h' with
      | enter hnew => cases haction
      | leave => cases haction
      | onSheet haction' => rfl

theorem Opens.of_concat (h : Opens (steps ++ [step]) opened') :
    ∃ opened, Opens steps opened ∧ Nests opened step opened' := by
  generalize hwhole : steps ++ [step] = whole at h
  cases h with
  | nil => exact absurd hwhole (by simp)
  | concat h hstep =>
      obtain ⟨rfl, hlast⟩ := List.append_inj' hwhole rfl
      obtain rfl := List.singleton_inj.1 hlast
      exact ⟨_, h, hstep⟩

theorem Opens.unique (h : Opens steps opened) (h' : Opens steps opened') : opened = opened' := by
  induction h generalizing opened' with
  | nil =>
      generalize hnil : ([] : List (Nat × PassAction)) = steps at h'
      cases h' with
      | nil => rfl
      | concat _ _ => exact absurd hnil (by simp)
  | concat h hstep ih =>
      obtain ⟨before, hbefore, hstep'⟩ := h'.of_concat
      obtain rfl := ih hbefore
      exact hstep.unique hstep'

/-- Nested steps are nested up to any moment. -/
theorem Opens.exists_of_prefix (h : Opens steps opened) {moment : List (Nat × PassAction)}
    (hmoment : moment <+: steps) : ∃ inside, Opens moment inside := by
  induction h with
  | nil => exact ⟨[], List.prefix_nil.1 hmoment ▸ .nil⟩
  | concat h hstep ih =>
      rcases List.prefix_concat_iff.1 hmoment with rfl | hmoment
      · exact ⟨_, .concat h hstep⟩
      · exact ih hmoment

/-- An open pass was entered when the passes outside it were open, and has not been entered or left
since. -/
theorem Opens.exists_enter (h : Opens steps opened) (inner : List Nat) {outer : List Nat}
    (hopened : opened = inner ++ index :: outer) :
    ∃ before inside, steps = before ++ (index, .enter) :: inside ∧ Opens before outer ∧
      (index, .enter) ∉ inside ∧ (index, .leave) ∉ inside := by
  induction h generalizing inner with
  | nil => exact absurd hopened (by simp)
  | @concat steps opened opened' step h hstep ih =>
      -- a step on another pass, or on the sheet, is one more step since the pass was entered
      have hlater (inner : List Nat) (hstill : opened = inner ++ index :: outer)
          (henter : step ≠ (index, .enter)) (hleave : step ≠ (index, .leave)) :
          ∃ before inside, steps ++ [step] = before ++ (index, .enter) :: inside ∧
            Opens before outer ∧ (index, .enter) ∉ inside ∧ (index, .leave) ∉ inside := by
        obtain ⟨before, inside, rfl, hbefore, hnotEnter, hnotLeave⟩ := ih inner hstill
        refine ⟨before, inside ++ [step], by simp, hbefore, ?_, ?_⟩
        · simpa [hnotEnter] using henter.symm
        · simpa [hnotLeave] using hleave.symm
      cases hstep with
      | @enter _ other hnew =>
          cases inner with
          | nil =>
              obtain ⟨rfl, rfl⟩ := List.cons.inj hopened
              exact ⟨steps, [], rfl, h, List.not_mem_nil, List.not_mem_nil⟩
          | cons first inner =>
              obtain ⟨rfl, rfl⟩ := List.cons.inj hopened
              refine hlater inner rfl ?_ (by simp)
              rintro ⟨⟩
              exact hnew (by simp)
      | @leave _ other =>
          subst hopened
          refine hlater (other :: inner) rfl (by simp) ?_
          rintro ⟨⟩
          exact (List.nodup_cons.1 h.nodup).1 (by simp)
      | @onSheet _ other action haction =>
          refine hlater inner hopened ?_ ?_
          · rintro ⟨⟩
            cases haction
          · rintro ⟨⟩
            cases haction

/-- At every moment of nested steps, the innermost open pass is the active one, and where no pass is
open it is the one that was active at the start. Leaving a pass makes that pass active which was active
before it was entered, empties its sheet, and leaves all other passes as they are. -/
theorem nested_restores {session : Session} {steps : List (Nat × PassAction)} {opened : List Nat}
    (hsteps : ∀ step ∈ steps, step.1 < session.passes.length) (h : Opens steps opened) :
    (∀ moment, moment <+: steps → ∃ inside, Opens moment inside ∧
      (after moment session).active = inside.head?.or session.active) ∧
    ∀ front index rest, steps = front ++ (index, .leave) :: rest →
      ∃ before inside, front = before ++ (index, .enter) :: inside ∧
        (index, .enter) ∉ inside ∧ (index, .leave) ∉ inside ∧
        let left := (act index .leave (after front session)).state
        left.active = (after before session).active ∧ rules index left = [] ∧
        ∀ other, other ≠ index → left.passes[other]? = (after front session).passes[other]? := by
  have htracks {moment inside} (hmoment : moment <+: steps) (hinside : Opens moment inside) :
      Tracks session.active (after moment session) inside :=
    tracks_after hinside fun step hstep => hsteps step (hmoment.subset hstep)
  constructor
  · intro moment hmoment
    obtain ⟨inside, hinside⟩ := h.exists_of_prefix hmoment
    exact ⟨inside, hinside, (htracks hmoment hinside).active⟩
  · rintro front index rest rfl
    have hleft : front ++ [(index, .leave)] <+: front ++ (index, .leave) :: rest :=
      ⟨rest, by simp⟩
    obtain ⟨outer, houter⟩ := h.exists_of_prefix hleft
    obtain ⟨stack, hstack, hstep⟩ := houter.of_concat
    have hindex : stack = index :: outer := by
      cases hstep with
      | leave => rfl
      | onSheet haction => cases haction
    obtain ⟨before, inside, rfl, hbefore, hnotEnter, hnotLeave⟩ :=
      hstack.exists_enter [] hindex
    refine ⟨before, inside, rfl, hnotEnter, hnotLeave, ?_, rules_act_leave _ _,
      fun other hother => getElem?_passes_act_of_ne (Ne.symm hother) _ _⟩
    have hactive := (htracks hleft houter).active
    rw [after_concat] at hactive
    rw [hactive, (htracks (by simp [List.append_assoc]) hbefore).active]

/-- A pass in which a page is collected, and inside it another pass in which a page cannot be read. The
inner pass is left and entered again. -/
def nestedVisits : List (Nat × PassAction) :=
  [(1, .enter), (1, .collectPage "<p style=\"color: red\">x</p>".toList), (0, .enter),
    (0, .collectPage "<p style=\"color: red \x7d\">y</p>".toList), (0, .leave), (0, .enter)]

theorem opens_nestedVisits : Opens (nestedVisits.take 5) [1] ∧ Opens nestedVisits [0, 1] := by
  have houter : Opens [nestedVisits[0]] [1] := .concat .nil (.enter List.not_mem_nil)
  have hpage : Opens (nestedVisits.take 2) [1] := .concat houter (.onSheet rfl)
  have hinner : Opens (nestedVisits.take 3) [0, 1] := .concat hpage (.enter (by decide))
  have hbroken : Opens (nestedVisits.take 4) [0, 1] := .concat hinner (.onSheet rfl)
  have hleft : Opens (nestedVisits.take 5) [1] := .concat hbroken .leave
  exact ⟨hleft, .concat hleft (.enter (by decide))⟩

/-- Leaving the inner pass makes the outer one active again, with the rule that it had. -/
theorem nestedVisits_restored :
    let session := start [.standard, .standard]
    let left := (act 0 .leave (after (nestedVisits.take 4) session)).state
    (∀ step ∈ nestedVisits, step.1 < session.passes.length) ∧ Opens nestedVisits [0, 1] ∧
      (after nestedVisits session).active = some 0 ∧ left.active = some 1 ∧ rules 0 left = [] ∧
      rules 1 left = [(GeneratedRule.plainBody [⟨"color".toList, "red".toList⟩],
        [".hw_CTY41".toList])] := by
  intro session left
  have hsteps : ∀ step ∈ nestedVisits, step.1 < session.passes.length := by
    simp [nestedVisits, session, start]
  obtain ⟨hinside, hall⟩ := opens_nestedVisits
  obtain ⟨hmoments, hleaves⟩ := nested_restores hsteps hall
  have hactive {moment opened} (hmoment : moment <+: nestedVisits) (h : Opens moment opened) :
      (after moment session).active = opened.head?.or none := by
    obtain ⟨inside, hopens, hinside⟩ := hmoments moment hmoment
    rw [hinside, hopens.unique h]
    rfl
  obtain ⟨-, -, -, -, -, -, hempty, hothers⟩ := hleaves (nestedVisits.take 4) 0 [(0, .enter)] rfl
  refine ⟨hsteps, hall, hactive List.prefix_rfl hall, hactive (List.take_prefix 5 _) hinside, hempty,
    ?_⟩
  have hrules : rules 1 left = rules 1 (after (nestedVisits.take 4) session) := by
    rw [rules, rules, hothers 1 (by decide)]
  rw [hrules]
  decide +kernel

end AtomicCss.Session
