import WormBattle.Proofs.World.TurnOrder

/-!
# The current worm

The turn is kept as a place of the turn order, and the turn order changes while worms come and go.
Still the turn never slips to another worm: until it is handed on, the worm that has it is current
as long as it is listed, and nobody is once it has left (`World.HasTurn.change`,
`World.Vacant.change`).

Handing on the turn divides by the number of worms and looks worms up by their places.
`World.handOver?` does so with care and gives up when a divisor is zero or a place is outside of the
turn order; it never does (`World.handOver?_eq`).
-/

namespace WormBattle

variable {α : Type}

/-! ### Who has the turn -/

/-- A worm that has left stays noted when another one leaves. -/
theorem Turn.currentRemoved_removed (turn : Turn) (index : Nat) (h : turn.currentRemoved = true) :
    (turn.removed index).currentRemoved = true := by
  rw [removed]
  split
  · exact h
  · split
    · rfl
    · exact h

/-- The worm that has the turn, in a turn order. -/
def WorldState.current? (order : List EntityId) : WorldState → Option EntityId
  | .inProgress turn => if turn.currentRemoved then none else order[turn.index]?
  | _ => none

namespace World

variable {traffic : Traffic} {w w' : World α} {turn : Turn} {worm : Worm α} {id : EntityId}

/-- A worm has the turn. -/
def HasTurn (w : World α) (id : EntityId) : Prop :=
  w.state.current? w.order = some id

/-- The game has begun, and nobody has the turn any longer. -/
structure Vacant (w : World α) : Prop where
  begun : w.state ≠ .notStarted
  removed : ∀ turn, w.state = .inProgress turn → turn.currentRemoved = true

private theorem map_id_currentWorm? (w : World α) :
    w.currentWorm?.map Worm.id = w.state.current? w.order := by
  rw [currentWorm?]
  cases w.state with
  | inProgress turn =>
    show Option.map Worm.id (if turn.currentRemoved then none else w.worms[turn.index]?) =
      if turn.currentRemoved then none else w.order[turn.index]?
    rw [order, List.getElem?_map]
    cases turn.currentRemoved <;> rfl
  | _ => rfl

/-- The current worm has the turn. -/
theorem hasTurn_of_currentWorm? (h : w.currentWorm? = some worm) : w.HasTurn worm.id := by
  rw [HasTurn, ← map_id_currentWorm?, h]
  rfl

private theorem hasTurn_iff : w.HasTurn id ↔ ∃ turn, w.state = .inProgress turn ∧
    turn.currentRemoved = false ∧ w.order[turn.index]? = some id := by
  rw [HasTurn]
  cases w.state with
  | inProgress turn => cases h : turn.currentRemoved <;> simp [WorldState.current?, h]
  | _ => simp [WorldState.current?]

private theorem Vacant.currentWorm? (h : w.Vacant) : w.currentWorm? = none := by
  rw [World.currentWorm?]
  cases hstate : w.state with
  | inProgress turn => exact if_pos (h.removed turn hstate)
  | _ => rfl

private theorem HasTurn.listed (h : w.HasTurn id) : (w.worm? id).isSome := by
  obtain ⟨turn, -, -, hplace⟩ := hasTurn_iff.mp h
  exact isSome_worm?_iff.mpr (List.mem_of_getElem? hplace)

variable [Scalar α]

private theorem Sound.nodup_order (h : w.Sound) : w.order.Nodup :=
  h.nodup

/-- The worm that has the turn is the current one. -/
theorem HasTurn.currentWorm? (h : w.HasTurn id) (hs : w.Sound) : w.currentWorm? = w.worm? id := by
  rw [HasTurn, ← map_id_currentWorm?] at h
  obtain ⟨worm, hworm, rfl⟩ := Option.map_eq_some_iff.mp h
  have hmem : worm ∈ w.worms := by
    rw [World.currentWorm?] at hworm
    split at hworm
    · split at hworm
      · cases hworm
      · exact List.mem_of_getElem? hworm
    · cases hworm
  rw [hworm, hs.worm?_of_mem hmem]

/-! ### What becomes of the turn -/

/-- **The turn stays with its worm** when the world changes, until that worm leaves; then it is
nobody's. -/
theorem HasTurn.change (h : w.HasTurn id) (hs : w.Sound) (hchange : w.Change traffic w') :
    w'.HasTurn id ∨ (traffic = .leaving ∧ w'.Vacant ∧ id ∉ w'.order) := by
  obtain ⟨turn, hturn, hcurrent, hplace⟩ := hasTurn_iff.mp h
  obtain ⟨hlt, hid⟩ := List.getElem?_eq_some_iff.mp hplace
  rcases hchange.order with ⟨horder, hstate⟩ | ⟨-, ⟨added, horder⟩, hstate⟩ |
    ⟨hleaving, index, horder, hstate⟩
  · left
    rw [HasTurn, horder, hstate]
    exact h
  · left
    refine hasTurn_iff.mpr ⟨turn, hstate.trans hturn, hcurrent, ?_⟩
    rw [horder, List.getElem?_append_left hlt, hplace]
  · have hstate : w'.state = .inProgress (turn.removed index) := by
      rw [hstate, stateWithout, hturn]
    rcases Nat.lt_trichotomy index turn.index with hbefore | rfl | hbehind
    · -- The worm moves up by one place, and so does the turn.
      left
      rw [Turn.removed, if_pos hbefore] at hstate
      refine hasTurn_iff.mpr ⟨_, hstate, hcurrent, ?_⟩
      show w'.order[turn.index - 1]? = some id
      have hmoved : turn.index - 1 + 1 = turn.index := by omega
      rw [horder, List.getElem?_eraseIdx_of_ge (by omega), hmoved, hplace]
    · right
      rw [Turn.removed, if_neg (Nat.lt_irrefl _), if_pos rfl] at hstate
      refine ⟨hleaving, ⟨by simp [hstate], fun turn' hturn' => ?_⟩, ?_⟩
      · cases hstate.symm.trans hturn'
        rfl
      · rw [horder, ← hid, ← hs.nodup_order.erase_getElem turn.index hlt]
        exact hs.nodup_order.not_mem_erase
    · left
      rw [Turn.removed, if_neg (by omega), if_neg (by omega)] at hstate
      refine hasTurn_iff.mpr ⟨turn, hstate, hcurrent, ?_⟩
      rw [horder, List.getElem?_eraseIdx_of_lt hbehind, hplace]

/-- What is nobody's turn stays so when the world changes. -/
theorem Vacant.change (h : w.Vacant) (hchange : w.Change traffic w') : w'.Vacant := by
  have hbegun : w'.state ≠ .notStarted := fun hnot => h.begun (hchange.state.2.mp hnot)
  refine ⟨hbegun, fun turn' hturn' => ?_⟩
  rcases hchange.order with ⟨-, hstate⟩ | ⟨-, -, hstate⟩ | ⟨-, index, -, hstate⟩
  · exact h.removed turn' (hstate.symm.trans hturn')
  · exact h.removed turn' (hstate.symm.trans hturn')
  · rw [hturn', stateWithout] at hstate
    cases hbefore : w.state with
    | inProgress turn =>
      rw [hbefore] at hstate
      cases hstate
      exact turn.currentRemoved_removed index (h.removed turn hbefore)
    | notStarted | finished | terminated =>
      rw [hbefore] at hstate
      cases hstate

/-- Worms that only leave do not come back. -/
theorem Change.not_mem_order (h : w.Change .leaving w') (hid : id ∉ w.order) : id ∉ w'.order := by
  rcases h.order with ⟨horder, -⟩ | ⟨hentering, -, -⟩ | ⟨-, index, horder, -⟩
  · rwa [horder]
  · cases hentering
  · rw [horder]
    exact fun hmem => hid (List.mem_of_mem_eraseIdx hmem)

private theorem HasTurn.changes (h : w.HasTurn id) (hs : w.Sound)
    (hchanges : w.Changes traffic w') :
    w'.HasTurn id ∨ (traffic = .leaving ∧ w'.Vacant ∧ id ∉ w'.order) := by
  induction hchanges with
  | refl => exact .inl h
  | tail hbefore hchange ih =>
    rcases ih with hturn | ⟨rfl, hvacant, hid⟩
    · exact hturn.change (hs.changes hbefore) hchange
    · exact .inr ⟨rfl, hvacant.change hchange, hchange.not_mem_order hid⟩

private theorem Vacant.changes (h : w.Vacant) (hchanges : w.Changes traffic w') : w'.Vacant :=
  hchanges.keeps (fun _ _ => Vacant.change) h

end World

/-! ### Handing on the turn with care -/

/-- The remainder of a division; there is none for the divisor zero. -/
def remainder? (n divisor : Nat) : Option Nat :=
  if divisor = 0 then none else some (n % divisor)

namespace World

/-- The search for a living worm, which is given up at a place outside of the turn order. -/
def livingFrom? (w : World α) : Nat → Nat → Option Nat
  | 0, index => some index
  | steps + 1, index => do
    let worm ← w.worms[index]?
    if worm.isAlive then some index
    else
      let index ← remainder? (index + 1) w.worms.length
      livingFrom? w steps index

private theorem livingFrom?_eq (w : World α) (steps : Nat) {index : Nat}
    (h : index < w.worms.length) : w.livingFrom? steps index = some (w.livingFrom steps index) := by
  induction steps generalizing index with
  | zero => rfl
  | succ steps ih =>
    have hpos : w.worms.length ≠ 0 := by omega
    rw [livingFrom?, livingFrom, List.getElem?_eq_getElem h]
    dsimp only [Option.bind_eq_bind, Option.bind_some]
    split
    · rfl
    · rw [remainder?, if_neg hpos, Option.bind_some, ih (Nat.mod_lt _ (by omega))]

variable [Scalar α]

/-- Handing the turn on to the next living worm, which is given up when a divisor is zero or a place
is outside of the turn order. -/
def handOver? (w : World α) (turn : Turn) : Option (Except (Error α) (World α)) := do
  let index ← remainder? (if turn.currentRemoved then turn.index else turn.index + 1) w.worms.length
  let index ← w.livingFrom? w.worms.length index
  let worm ← w.worms[index]?
  return worm.replenish.map fun worm =>
    { w with
      worms := w.worms.set index worm
      state := .inProgress { index, number := turn.number + 1, currentRemoved := false } }

private theorem isSome_currentWorm?_withTurn {w : World α} {index : Nat} (number : Nat)
    (h : index < w.worms.length) :
    (w.withTurn index number).currentWorm?.isSome := by
  show ((w.worms.modify index Worm.rested)[index]?).isSome
  rw [List.getElem?_modify_eq, List.getElem?_eq_getElem h]
  rfl

/-- **Handing on the turn never goes wrong**: there is always a worm to divide by and one at every
place that is looked at. -/
theorem handOver?_eq (w : World α) (turn : Turn) (h : w.worms ≠ []) :
    w.handOver? turn = some (w.handTurn (w.nextIndex turn) (turn.number + 1)) := by
  have hpos : 0 < w.worms.length := List.length_pos_iff.mpr h
  have hplace : turn.next % w.worms.length < w.worms.length := Nat.mod_lt _ hpos
  have hnext : w.livingFrom w.worms.length (turn.next % w.worms.length) = w.nextIndex turn := by
    rw [nextIndex, Turn.next]
    cases turn.currentRemoved <;> rfl
  have hlt := w.nextIndex_lt turn h
  rw [handOver?, ← Turn.next, remainder?, if_neg (by omega), handTurn, replenishAt,
    List.getElem?_eq_getElem hlt]
  simp only [Option.bind_eq_bind, Option.bind_some, livingFrom?_eq w _ hplace, hnext,
    List.getElem?_eq_getElem hlt]
  cases w.worms[w.nextIndex turn].replenish <;> rfl

end World

/-! ### From one hand-over to the next -/

namespace Simulation

variable [Scalar α] {s s' : Simulation α} {op : Option (Operation α)} {id : EntityId}

open Command

/-- What a step of a game does to the turn, unless it hands it on. -/
theorem Step.keeps_turn (h : s.Step op s') (hs : s.world.Sound) (hop : op ≠ some .startNextTurn)
    (id : EntityId) :
    (s.world.HasTurn id → s'.world.HasTurn id ∨ s'.world.Vacant ∧ s'.world.worm? id = none) ∧
      (s.world.Vacant → s'.world.Vacant) := by
  have hcourse := h.course hs
  generalize s'.world = w' at hcourse ⊢
  have hbegun : s.world.state = .notStarted → ¬s.world.HasTurn id ∧ ¬s.world.Vacant := by
    refine fun hstate => ⟨fun hturn => ?_, fun hvacant => hvacant.begun hstate⟩
    obtain ⟨turn, hturn, -⟩ := World.hasTurn_iff.mp hturn
    cases hstate.symm.trans hturn
  cases hcourse with
  | within traffic _ hchanges =>
    refine ⟨fun hturn => ?_, fun hvacant => hvacant.changes hchanges⟩
    refine (hturn.changes hs hchanges).imp_right fun ⟨_, hvacant, hid⟩ => ⟨hvacant, ?_⟩
    exact World.worm?_eq_none_iff.mpr hid
  | staysEmpty hstate | opens hstate =>
    obtain ⟨hturn, hvacant⟩ := hbegun hstate
    exact ⟨fun h => absurd h hturn, fun h => absurd h hvacant⟩
  | isOver | handsOn => exact absurd rfl hop
  | terminates => exact ⟨fun _ => .inr ⟨⟨by simp, by simp⟩, rfl⟩, fun _ => ⟨by simp, by simp⟩⟩

/-- A stretch of a game in which the turn is not handed on, with the worlds that there were. -/
inductive Interlude (s : Simulation α) : List (World α) → Simulation α → Prop where
  /-- Nothing has happened. -/
  | refl : Interlude s [s.world] s
  /-- The game has gone on by a step. -/
  | step {worlds : List (World α)} {s' s'' : Simulation α} {op : Option (Operation α)} :
      Interlude s worlds s' → op ≠ some .startNextTurn → s'.Step op s'' →
      Interlude s (worlds ++ [s''.world]) s''

variable {worlds : List (World α)}

private theorem Interlude.reachable (h : s.Interlude worlds s') (hs : s.Reachable) :
    s'.Reachable := by
  induction h with
  | refl => exact hs
  | step _ _ hstep ih => exact ih.step hstep

/-- A worm keeps the turn while it is listed, and once it has been missing nobody has it. -/
theorem Interlude.keeps_turn (h : s.Interlude worlds s') (hs : s.Reachable)
    (hturn : s.world.HasTurn id) :
    (s'.world.HasTurn id ∧ ∀ w ∈ worlds, (w.worm? id).isSome) ∨
      (s'.world.Vacant ∧ ∃ w ∈ worlds, w.worm? id = none) := by
  induction h with
  | refl => exact .inl ⟨hturn, by simpa using hturn.listed⟩
  | @step worlds s' s'' op hbefore hop hstep ih =>
    obtain ⟨hkeeps, hvacant⟩ := hstep.keeps_turn (hbefore.reachable hs).sound hop id
    rcases ih with ⟨hturn, hlisted⟩ | ⟨hgone, w, hw, hnone⟩
    · rcases hkeeps hturn with hturn | ⟨hgone, hnone⟩
      · refine .inl ⟨hturn, fun w hw => ?_⟩
        rcases List.mem_append.mp hw with hw | hw
        · exact hlisted w hw
        · rw [List.mem_singleton.mp hw]
          exact hturn.listed
      · exact .inr ⟨hgone, _, by simp, hnone⟩
    · exact .inr ⟨hvacant hgone, w, List.mem_append_left _ hw, hnone⟩

/-- **The turn is in order** in every reachable simulation. Its place is one of the turn order or,
if its worm has left, possibly its end. As long as it is not handed on, its worm is current while it
is listed, and nobody is once that worm has been missing. Handing it on never goes wrong, and gives
it to a worm. -/
theorem Reachable.turn_in_order (hs : s.Reachable) :
    (∀ turn, s.world.state = .inProgress turn → turn.index ≤ s.world.worms.length ∧
      (turn.currentRemoved = false → turn.index < s.world.worms.length)) ∧
    (∀ worm worlds s', s.world.currentWorm? = some worm → s.Interlude worlds s' →
      ((∀ w ∈ worlds, (w.worm? worm.id).isSome) →
        s'.world.currentWorm? = s'.world.worm? worm.id) ∧
      ((∃ w ∈ worlds, w.worm? worm.id = none) → s'.world.currentWorm? = none)) ∧
    (∀ turn, s.world.state = .inProgress turn → s.world.isGameOver = false →
      ∃ handed, s.world.handOver? turn = some handed ∧
        (∀ w', handed = .ok w' → w'.currentWorm?.isSome ∧
          startNextTurn.carryOut s = (.ok (), { s with world := w' })) ∧
        ∀ e, handed = .error e → e = .overflow ∧
          startNextTurn.carryOut s = (.error .overflow, s)) := by
  refine ⟨hs.sound.turn, fun worm worlds s' hworm h => ?_, fun turn hturn hover => ?_⟩
  · rcases h.keeps_turn hs (World.hasTurn_of_currentWorm? hworm) with ⟨hturn, hlisted⟩ |
      ⟨hvacant, w, hw, hnone⟩
    · refine ⟨fun _ => hturn.currentWorm? (h.reachable hs).sound, ?_⟩
      rintro ⟨w, hw, hnone⟩
      have := hlisted w hw
      simp [hnone] at this
    · refine ⟨fun hlisted => ?_, fun _ => hvacant.currentWorm?⟩
      have := hlisted w hw
      simp [hnone] at this
  · have hworms := World.worms_ne_nil_of_isGameOver hover
    refine ⟨_, World.handOver?_eq s.world turn hworms, ?_⟩
    rcases s.world.handTurn_eq (s.world.nextIndex turn) (turn.number + 1) with
      ⟨hfits, hhanded⟩ | ⟨hfits, hhanded⟩
    · rw [hhanded]
      refine ⟨?_, nofun⟩
      rintro _ ⟨⟩
      exact ⟨World.isSome_currentWorm?_withTurn _ (World.nextIndex_lt _ turn hworms),
        carryOut_startNextTurn_of_regainsAt hturn hover hfits⟩
    · rw [hhanded]
      refine ⟨nofun, ?_⟩
      rintro _ ⟨⟩
      exact ⟨rfl, carryOut_startNextTurn_of_not_regainsAt hturn hover hfits⟩

/-- In the second worm's turn the first one leaves, and then the second one itself. -/
theorem turn_in_order_trio : ∃ worm,
    (trio.after [.start, .startNextTurn]).world.currentWorm? = some worm ∧
    (trio.after [.start, .startNextTurn, .removeWorm ⟨1⟩]).world.currentWorm?.map Worm.id =
      some worm.id ∧
    (trio.after [.start, .startNextTurn, .removeWorm ⟨1⟩, .removeWorm ⟨2⟩]).world.currentWorm? =
      none := by
  have hs : (trio.after [.start, .startNextTurn]).Reachable :=
    reachable_trio.after ⟨trivial, trivial, trivial⟩
  obtain ⟨worm, hworm, hid⟩ : ∃ worm,
      (trio.after [.start, .startNextTurn]).world.currentWorm? = some worm ∧ worm.id = ⟨2⟩ :=
    Option.map_eq_some_iff.mp (by decide +kernel)
  have hremove : ∀ (s : Simulation Rat) id,
      s.Step (some (.removeWorm id)) (s.after [.removeWorm id]) :=
    fun s id => .operate (.removeWorm id) trivial
  have hone := Interlude.refl.step (by simp) (hremove (trio.after [.start, .startNextTurn]) ⟨1⟩)
  have htwo := hone.step (by simp) (hremove _ ⟨2⟩)
  obtain ⟨-, hkeeps, -⟩ := hs.turn_in_order
  have hlisted := (hkeeps worm _ _ hworm hone).1
  have hgone := (hkeeps worm _ _ hworm htwo).2
  rw [hid] at hlisted hgone
  refine ⟨worm, hworm, ?_, hgone (by decide +kernel)⟩
  rw [hid]
  exact (congrArg _ (hlisted (by decide +kernel))).trans (by decide +kernel)

end Simulation

end WormBattle
