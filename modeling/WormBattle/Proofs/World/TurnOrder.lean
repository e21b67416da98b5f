import Mathlib.Data.List.Chain
import WormBattle.Proofs.Scalar.Rational
import WormBattle.Proofs.World.NextTurn

/-!
# Fair turns

In any stretch of a game (`Simulation.Stretch`), the turns of two worms that are listed and alive
all the time alternate (`Simulation.Stretch.turns_alternate`), whatever else happens: worms enter
and leave, die and act, the worm that has the turn is taken out.

The turns are those whose numbers differ from the ones before (`Simulation.handed`), and none is
missing from the record of a stretch (`Simulation.Stretch.length_turns`).

The invariant is that the one of the two that had the last turn stands behind the other in the
queue. Between two turns nobody overtakes. A worm that gets the turn goes to the end of the queue,
and it only gets it when no living worm is ahead of it.
-/

namespace WormBattle

open World

variable {α : Type} [Scalar α]

/-! ### Alternating lists -/

section Lists

variable {β : Type} [DecidableEq β] {l : List β} {a b : β}

/-- In a list of two elements without two equal ones in a row, neither occurs twice more than the
other. -/
theorem count_le_of_isChain (hab : a ≠ b) (hchain : l.IsChain (· ≠ ·))
    (hmem : ∀ x ∈ l, x = a ∨ x = b) :
    l.count a ≤ l.count b + 1 ∧ (l.head? = some b → l.count a ≤ l.count b) := by
  induction l with
  | nil => simp
  | cons x l ih =>
    obtain ⟨hx, hmem⟩ := List.forall_mem_cons.mp hmem
    obtain ⟨hhead, hchain⟩ := List.isChain_cons.mp hchain
    obtain ⟨hle, hheadLe⟩ := ih hchain hmem
    rcases hx with rfl | rfl
    · have hrest : l.count x ≤ l.count b := by
        cases l with
        | nil => simp
        | cons y l =>
          refine hheadLe ?_
          have hne : x ≠ y := hhead y rfl
          have hy : y = b := (hmem y List.mem_cons_self).resolve_left hne.symm
          rw [hy]
          rfl
      rw [List.count_cons_self, List.count_cons_of_ne hab]
      refine ⟨by omega, fun h => absurd (Option.some.inj h) hab⟩
    · rw [List.count_cons_self, List.count_cons_of_ne (Ne.symm hab)]
      exact ⟨by omega, fun _ => hle⟩

end Lists

/-! ### Steps -/

namespace Simulation

/-- The worm that was handed the turn in a step of a game: the number of the turn is another one,
and this worm has it. -/
def handed (s s' : Simulation α) : Option EntityId :=
  if s'.world.turnNumber? = s.world.turnNumber? then none
  else s'.world.currentWorm?.map Worm.id

variable {s s' : Simulation α} {op : Option (Operation α)} {a b : EntityId}

omit [Scalar α] in
/-- The turn is not handed on while its number stays. -/
theorem handed_eq_none (h : s'.world.turnNumber? = s.world.turnNumber?) : s.handed s' = none :=
  if_pos h

omit [Scalar α] in
/-- The turn is handed to no one if no worm has it. -/
theorem handed_eq_none_of_currentWorm? (h : s'.world.currentWorm? = none) :
    s.handed s' = none := by
  rw [handed, h]
  exact ite_self none

/-- When a turn begins, the worm at its place is handed it. -/
theorem handed_withTurn {index number : Nat} {next : Worm α}
    (hs' : s'.world = s.world.withTurn index number) (hnumber : s.world.turnNumber? ≠ some number)
    (hnext : s.world.worms[index]? = some next) : s.handed s' = some next.id := by
  have hother : s'.world.turnNumber? ≠ s.world.turnNumber? := by
    rw [hs']
    exact fun h => hnumber h.symm
  rw [handed, if_neg hother, hs', currentWorm?_withTurn number hnext]
  rfl

/-- What a step does to the order of two living worms. -/
structure Passes (s s' : Simulation α) (a b : EntityId) : Prop where
  /-- A worm only gets the turn if the other is not ahead, and then it is behind. -/
  turn : s.handed s' = some a → ¬s.world.Ahead b a ∧ s'.world.Ahead b a
  /-- While neither gets the turn, they stay in their order. -/
  order : s.handed s' ≠ some a → s.handed s' ≠ some b → s.world.Ahead b a → s'.world.Ahead b a

omit [Scalar α] in
private theorem Passes.of_order (h : s.handed s' = none)
    (horder : s.world.Ahead b a → s'.world.Ahead b a) : s.Passes s' a b := by
  refine ⟨fun hturn => ?_, fun _ _ => horder⟩
  rw [h] at hturn
  cases hturn

/-- A turn that is handed to the first living worm. -/
theorem Passes.of_withTurn {dead rest : List (Worm α)} {next : Worm α} {place number : Nat}
    (hs' : s'.world = s.world.withTurn ((place + dead.length) % s.world.worms.length) number)
    (hnumber : s.world.turnNumber? ≠ some number)
    (hsplit : s.world.worms.rotate place = dead ++ next :: rest)
    (hdead : ∀ x ∈ dead, x.isAlive = false) (hb : s.world.Living b) (hab : a ≠ b)
    (hahead : s.world.Ahead b a → next.id ≠ a)
    (horder : next.id ≠ a → next.id ≠ b → s.world.Ahead b a → s'.world.Ahead b a) :
    s.Passes s' a b := by
  have hhanded := handed_withTurn hs' hnumber (getElem?_worms_of_rotate hsplit)
  refine ⟨fun hturn => ?_, fun hna hnb => ?_⟩
  · have hnext : next.id = a := Option.some.inj (hhanded.symm.trans hturn)
    refine ⟨fun h => hahead h hnext, ?_⟩
    rw [hs', ← hnext]
    exact ahead_of_next number hsplit hdead hb (hnext ▸ hab)
  · rw [hhanded] at hna hnb
    exact horder (fun h => hna (congrArg some h)) fun h => hnb (congrArg some h)

/-- **Every step passes the turn on fairly** between two living worms. -/
theorem Step.passes (h : s.Step op s') (hs : s.world.Sound) (hab : a ≠ b)
    (ha : s.world.Living a) (hb : s.world.Living b) (ha' : s'.world.Living a)
    (hb' : s'.world.Living b) : s.Passes s' a b := by
  have hcourse := h.course hs
  generalize hw : s'.world = w' at hcourse
  obtain ⟨worm, hworm, halive⟩ := ha
  have hlisted : worm ∈ s.world.worms := mem_of_worm? hworm
  cases hcourse with
  | within traffic _ hchanges =>
    subst hw
    obtain ⟨_, hworm, -⟩ := ha'
    obtain ⟨_, hworm', -⟩ := hb'
    exact .of_order (handed_eq_none hchanges.state.1) fun hahead =>
      hahead.changes hs hchanges (Ne.symm hab) hworm' hworm
  | staysEmpty _ hnil =>
    rw [hnil] at hlisted
    cases hlisted
  | opens hstate hworms =>
    -- The first worm gets the turn. Nobody has been ahead of anybody before.
    obtain ⟨next, rest, hsplit⟩ := List.exists_cons_of_ne_nil hworms
    have hplace : (0 + ([] : List (Worm α)).length) % s.world.worms.length = 0 := by simp
    have hnumber : s.world.turnNumber? ≠ some 1 := by simp [turnNumber?, hstate]
    have hround : s.world.worms.rotate 0 = [] ++ next :: rest := by
      rw [List.rotate_zero, hsplit, List.nil_append]
    refine .of_withTurn (by rw [hplace, hw]) hnumber hround (by simp) hb hab ?_ ?_
    · exact fun hahead => absurd hstate hahead.begun
    · exact fun _ _ hahead => absurd hstate hahead.begun
  | isOver =>
    -- Nobody gets the turn.
    refine .of_order (handed_eq_none_of_currentWorm? ?_) fun _ => ⟨by simp [hw], by simp [hw]⟩
    rw [hw]
    rfl
  | @handsOn turn hturn =>
    obtain ⟨dead, next, rest, hsplit, hnext, hdead⟩ := exists_first_living hlisted halive turn.next
    have hplace := nextIndex_eq hsplit hnext hdead
    have hnumber : s.world.turnNumber? ≠ some (turn.number + 1) := by simp [turnNumber?, hturn]
    refine .of_withTurn (by rw [hw, hplace]) hnumber hsplit hdead hb hab ?_ ?_
    · exact fun hahead => hahead.ne_next hs hturn hsplit hdead hb (Ne.symm hab)
    · intro hna hnb hahead
      have hkept := hahead.withTurn hs (turn.number + 1) hturn hsplit hdead hb
        ⟨worm, hworm, halive⟩ (Ne.symm hab) hnb hna
      rwa [← hplace, ← hw] at hkept
  | terminates =>
    obtain ⟨_, hnone, -⟩ := ha'
    rw [hw] at hnone
    cases hnone

/-! ### Stretches of a game -/

/-- A stretch of a game in which something holds of the world all the time, with the worms that were
handed a turn, in order. -/
inductive Stretch (P : World α → Prop) (s : Simulation α) :
    List EntityId → Simulation α → Prop where
  /-- Nothing has happened. -/
  | refl : P s.world → Stretch P s [] s
  /-- The game has gone on by a step. -/
  | step {turns : List EntityId} {s' s'' : Simulation α} {op : Option (Operation α)} :
      Stretch P s turns s' → s'.Step op s'' → P s''.world →
      Stretch P s (turns ++ (s'.handed s'').toList) s''

variable {P : World α → Prop} {turns : List EntityId}

private theorem Stretch.holds (h : Stretch P s turns s') : P s'.world := by
  cases h with
  | refl hP => exact hP
  | step _ _ hP => exact hP

private theorem Stretch.reachable (h : Stretch P s turns s') (hs : s.Reachable) : s'.Reachable := by
  induction h with
  | refl _ => exact hs
  | step _ hstep _ ih => exact ih.step hstep

/-- What a step does to the number of the turn. -/
structure Counts (s s' : Simulation α) : Prop where
  begun : s'.world.state ≠ .notStarted
  number : ∀ m, s'.world.turnNumber? = some m → ∃ n, s.world.turnNumber? = some n ∧
    m = n + (s.handed s').toList.length

omit [Scalar α] in
private theorem Counts.of_same_number (hbegun : s'.world.state ≠ .notStarted)
    (h : s'.world.turnNumber? = s.world.turnNumber?) : s.Counts s' := by
  refine ⟨hbegun, fun m hm => ⟨m, h ▸ hm, ?_⟩⟩
  rw [handed_eq_none h, Option.toList_none, List.length_nil, Nat.add_zero]

/-- Once the game has begun, the number of the turn goes up by one whenever a worm is handed the
turn. -/
theorem Step.counts (h : s.Step op s') (hs : s.world.Sound)
    (hbegun : s.world.state ≠ .notStarted) : s.Counts s' := by
  have hcourse := h.course hs
  generalize hw : s'.world = w' at hcourse
  cases hcourse with
  | within traffic _ hchanges =>
    subst hw
    exact .of_same_number (fun hnot => hbegun (hchanges.state.2.mp hnot)) hchanges.state.1
  | staysEmpty hstate | opens hstate => exact absurd hstate hbegun
  | isOver | terminates => exact ⟨by simp [hw], by simp [hw, turnNumber?]⟩
  | @handsOn turn hturn hgoes =>
    have hplace := nextIndex_lt s.world turn (worms_ne_nil_of_isGameOver hgoes)
    have hnumber : s.world.turnNumber? = some turn.number := by rw [turnNumber?, hturn]
    have hother : s.world.turnNumber? ≠ some (turn.number + 1) := by simp [hnumber]
    have hhanded := handed_withTurn hw hother (List.getElem?_eq_getElem hplace)
    refine ⟨fun hnot => (by cases hw ▸ hnot), fun m hm => ⟨turn.number, hnumber, ?_⟩⟩
    rw [hw] at hm
    cases hm
    rw [hhanded]
    rfl

/-- **No turn is missing**: between two turns of a game as many turns are handed on as their numbers
differ. -/
theorem Stretch.length_turns (hs : s.Reachable) (h : Stretch P s turns s') {n m : Nat}
    (hn : s.world.turnNumber? = some n) (hm : s'.world.turnNumber? = some m) :
    m = n + turns.length := by
  have hbegun : s.world.state ≠ .notStarted := by
    intro hnot
    rw [turnNumber?, hnot] at hn
    cases hn
  have hcounts : s'.world.state ≠ .notStarted ∧
      ∀ m, s'.world.turnNumber? = some m → m = n + turns.length := by
    -- The end of the stretch varies along the induction, and so does the number there.
    clear hm
    induction h with
    | refl _ =>
      refine ⟨hbegun, fun m hm => ?_⟩
      rw [hn] at hm
      cases hm
      rfl
    | step hbefore hstep _ ih =>
      have hsound := (hbefore.reachable hs).sound
      obtain ⟨hbegun', hnumber⟩ := hstep.counts hsound ih.1
      refine ⟨hbegun', fun m hm => ?_⟩
      obtain ⟨n', hn', hm'⟩ := hnumber m hm
      have hn' := ih.2 n' hn'
      rw [List.length_append]
      omega
  exact hcounts.2 m hm

/-- The invariant of the turns of two worms: they have alternated, and the worm that had the last of
them stands behind the other. -/
structure Alternates (turns : List EntityId) (w : World α) (a b : EntityId) : Prop where
  chain : (turns.filter fun id => id = a ∨ id = b).IsChain (· ≠ ·)
  first : (turns.filter fun id => id = a ∨ id = b).getLast? = some a → w.Ahead b a
  second : (turns.filter fun id => id = a ∨ id = b).getLast? = some b → w.Ahead a b

omit [Scalar α] in
private theorem Alternates.symm {w : World α} (h : Alternates turns w a b) :
    Alternates turns w b a := by
  have hown : (turns.filter fun id => id = b ∨ id = a) =
      turns.filter fun id => id = a ∨ id = b :=
    List.filter_congr fun id _ => by rw [Bool.decide_congr or_comm]
  exact ⟨hown ▸ h.chain, hown ▸ h.second, hown ▸ h.first⟩

omit [Scalar α] in
/-- The first of the two is handed the turn. -/
theorem Alternates.turn {w w' : World α} (h : Alternates turns w a b) (hab : a ≠ b)
    (hnot : ¬w.Ahead b a) (hbehind : w'.Ahead b a) : Alternates (turns ++ [a]) w' a b := by
  have hown : (turns ++ [a]).filter (fun id => decide (id = a ∨ id = b)) =
      (turns.filter fun id => id = a ∨ id = b) ++ [a] := by
    rw [List.filter_append, List.filter_cons_of_pos (by simp), List.filter_nil]
  refine ⟨?_, fun _ => hbehind, fun hlast => ?_⟩
  · rw [hown]
    refine h.chain.append (List.isChain_singleton a) fun x hx y hy => ?_
    cases hy
    rintro rfl
    exact hnot (h.first hx)
  · rw [hown, List.getLast?_concat] at hlast
    exact absurd (Option.some.inj hlast) hab

omit [Scalar α] in
/-- Neither of the two is handed the turn. -/
theorem Alternates.stay {w w' : World α} (h : Alternates turns w a b) {others : List EntityId}
    (hothers : ∀ c ∈ others, c ≠ a ∧ c ≠ b) (hfirst : w.Ahead b a → w'.Ahead b a)
    (hsecond : w.Ahead a b → w'.Ahead a b) : Alternates (turns ++ others) w' a b := by
  have hnone : others.filter (fun id => decide (id = a ∨ id = b)) = [] := by
    refine List.filter_eq_nil_iff.mpr fun c hc => ?_
    simpa using hothers c hc
  have hown : (turns ++ others).filter (fun id => decide (id = a ∨ id = b)) =
      turns.filter fun id => id = a ∨ id = b := by
    rw [List.filter_append, hnone, List.append_nil]
  exact ⟨hown ▸ h.chain, fun hlast => hfirst (h.first (hown ▸ hlast)),
    fun hlast => hsecond (h.second (hown ▸ hlast))⟩

private theorem Stretch.alternates (hs : s.Reachable) (hab : a ≠ b)
    (h : Stretch (fun w => w.Living a ∧ w.Living b) s turns s') :
    Alternates turns s'.world a b := by
  induction h with
  | refl _ => exact ⟨.nil, by simp, by simp⟩
  | @step turns s' s'' op hbefore hstep hP ih =>
    obtain ⟨ha, hb⟩ := hbefore.holds
    have hsound := (hbefore.reachable hs).sound
    have hpasses : s'.Passes s'' a b := hstep.passes hsound hab ha hb hP.1 hP.2
    have hpasses' : s'.Passes s'' b a := hstep.passes hsound (Ne.symm hab) hb ha hP.2 hP.1
    by_cases hturn : s'.handed s'' = some a
    · obtain ⟨hnot, hbehind⟩ := hpasses.turn hturn
      rw [hturn]
      exact ih.turn hab hnot hbehind
    by_cases hturn' : s'.handed s'' = some b
    · obtain ⟨hnot, hbehind⟩ := hpasses'.turn hturn'
      rw [hturn']
      exact (ih.symm.turn (Ne.symm hab) hnot hbehind).symm
    refine ih.stay (fun c hc => ?_) (hpasses.order hturn hturn') (hpasses'.order hturn' hturn)
    have hc : s'.handed s'' = some c := Option.mem_toList.mp hc
    rw [hc] at hturn hturn'
    exact ⟨fun h => hturn (congrArg some h), fun h => hturn' (congrArg some h)⟩

/-- **The turns of two worms alternate** in any stretch of a game in which both are listed and alive
all the time, so neither gets two turns more than the other. -/
theorem Stretch.turns_alternate (hs : s.Reachable) (hab : a ≠ b)
    (h : Stretch (fun w => w.Living a ∧ w.Living b) s turns s') :
    (turns.filter fun id => id = a ∨ id = b).IsChain (· ≠ ·) ∧
      turns.count a ≤ turns.count b + 1 ∧ turns.count b ≤ turns.count a + 1 := by
  have hchain := (h.alternates hs hab).chain
  have hmem : ∀ x ∈ turns.filter (fun id => id = a ∨ id = b), x = a ∨ x = b := by
    intro x hx
    simpa using (List.mem_filter.mp hx).2
  have hcount : ∀ x, x = a ∨ x = b →
      (turns.filter fun id => id = a ∨ id = b).count x = turns.count x := by
    intro x hx
    exact List.count_filter (by simpa using hx)
  have hle := (count_le_of_isChain hab hchain hmem).1
  have hle' := (count_le_of_isChain (Ne.symm hab) hchain fun x hx => (hmem x hx).symm).1
  rw [hcount a (.inl rfl), hcount b (.inr rfl)] at hle hle'
  exact ⟨hchain, hle, hle'⟩

/-- Three worms before the game begins. -/
def trio : Simulation Rat :=
  let worm (id : EntityId) : Worm Rat := .fresh "Ann" ⟨5, 5⟩ 0 0.5 default id
  let start : Simulation Rat := { world := .fresh ⟨1⟩ (.empty 100 100) default, ids := ⟨4⟩ }
  start.after [.addWorm (worm ⟨1⟩), .addWorm (worm ⟨2⟩), .addWorm (worm ⟨3⟩)]

/-- The three worms come up in a game. -/
theorem reachable_trio : trio.Reachable := by
  have hmade : ∀ id, (Worm.fresh "Ann" ⟨5, 5⟩ 0 0.5 default id : Worm Rat).Made := by
    intro id
    refine .make (Worm.make_eq_ok_iff.mpr ⟨?_, ?_, ?_, rfl⟩)
    all_goals decide +kernel
  refine (Reachable.onGrid ⟨4⟩ (World.onGrid_eq_ok_iff.mpr ⟨?_, rfl⟩)).after
    ⟨⟨hmade _, ?_⟩, ⟨hmade _, ?_⟩, ⟨hmade _, ?_⟩, trivial⟩
  all_goals decide +kernel

/-- The third worm is taken out during its turn. -/
theorem turns_trio : ∃ turns s', Stretch (fun w => w.Living ⟨1⟩ ∧ w.Living ⟨2⟩) trio turns s' ∧
    turns = [⟨1⟩, ⟨2⟩, ⟨3⟩, ⟨1⟩] ∧
    (turns.filter fun id => id = ⟨1⟩ ∨ id = ⟨2⟩).IsChain (· ≠ ·) := by
  obtain ⟨turns, hstretch, hturns⟩ : ∃ turns, Stretch (fun w => w.Living ⟨1⟩ ∧ w.Living ⟨2⟩) trio
      turns (trio.after [.start, .startNextTurn, .startNextTurn, .removeWorm ⟨3⟩, .startNextTurn]) ∧
      turns = [⟨1⟩, ⟨2⟩, ⟨3⟩, ⟨1⟩] := by
    refine ⟨_, .step (.step (.step (.step (.step (.refl ?_) (.operate .start trivial) ?_)
      (.operate .startNextTurn trivial) ?_) (.operate .startNextTurn trivial) ?_)
      (.operate (.removeWorm ⟨3⟩) trivial) ?_) (.operate .startNextTurn trivial) ?_, ?_⟩
    all_goals decide +kernel
  have hne : (⟨1⟩ : EntityId) ≠ ⟨2⟩ := by decide
  exact ⟨turns, _, hstretch, hturns, (hstretch.turns_alternate reachable_trio hne).1⟩

end Simulation

end WormBattle
