import WormBattle.Proofs.World.Points

/-!
# Dead worms

A worm without hit points is passed over when the turn is handed on, and no change of the world
gives it hit points. The beginning of the game is the one exception: it goes to the first worm
(`World.Opens`), dead or alive, and a dead one may come back to life by it.

`Simulation.Step.turn_cases` says when a step hands the turn to a worm, and to which one.
`Simulation.Reachable.raised_iff` follows from it: in every step of a game, a dead worm gets the
turn exactly if it opens the game, and it comes back to life exactly if it also has hit points then.
-/

namespace WormBattle

variable {α : Type} [Scalar α]

/-- A rested worm keeps its number. -/
@[simp] theorem Worm.id_rested (worm : Worm α) : worm.rested.id = worm.id := rfl

omit [Scalar α] in
/-- A dead worm has no hit points that could make the sum too large. -/
theorem Worm.regained_le_of_dead {worm : Worm α} (h : worm.isAlive = false) :
    worm.regained ≤ Scalar.maxPoints := by
  rw [Worm.isAlive, decide_eq_false_iff_not] at h
  have hregen : worm.config.hitPointRegen.toNat < 2 ^ 32 := UInt32.toNat_lt _
  rw [Worm.regained, Scalar.maxPoints]
  omega

namespace World

variable {w : World α} {worm next : Worm α} {index : Nat}

/-- The game has not begun, and this worm is the one that it would begin with. -/
def Opens (w : World α) (worm : Worm α) : Prop :=
  w.state = .notStarted ∧ w.worms.head? = some worm

/-- The worm to which an operation hands the turn: the first one when the game begins, and the next
living one while it goes on. -/
inductive Due (w : World α) (worm : Worm α) : Operation α → Prop where
  /-- The worm opens the game. -/
  | opens : w.Opens worm → Due w worm .start
  /-- The worm is the next one. -/
  | follows {turn : Turn} : w.state = .inProgress turn → w.isGameOver = false →
      w.worms[w.nextIndex turn]? = some worm → Due w worm .startNextTurn

omit [Scalar α] in
/-- A game that goes on has a living worm. -/
theorem exists_living_of_isGameOver (h : w.isGameOver = false) :
    ∃ worm ∈ w.worms, worm.isAlive = true := by
  by_contra hnone
  push Not at hnone
  have hnil : w.worms.filter Worm.isAlive = [] := List.filter_eq_nil_iff.mpr hnone
  simp [isGameOver, factions, hnil] at h

omit [Scalar α] in
/-- The next turn of a game that goes on is at the place of a living worm. -/
theorem exists_living_nextIndex (h : w.isGameOver = false) (turn : Turn) :
    ∃ next, w.worms[w.nextIndex turn]? = some next ∧ next.isAlive = true := by
  obtain ⟨worm, hworm, halive⟩ := exists_living_of_isGameOver h
  obtain ⟨dead, next, rest, hsplit, hnext, hdead⟩ := exists_first_living hworm halive turn.next
  rw [nextIndex_eq hsplit hnext hdead]
  exact ⟨next, getElem?_worms_of_rotate hsplit, hnext⟩

omit [Scalar α] in
/-- A worm that is handed the turn opens the game, or is alive. -/
theorem Due.opens_or_alive {op : Operation α} (h : w.Due worm op) :
    op = .start ∧ w.Opens worm ∨ op = .startNextTurn ∧ worm.isAlive = true := by
  cases h with
  | opens hopens => exact .inl ⟨rfl, hopens⟩
  | follows hturn hgoes hnext =>
    obtain ⟨next, hfound, halive⟩ := exists_living_nextIndex hgoes _
    cases hnext.symm.trans hfound
    exact .inr ⟨rfl, halive⟩

omit [Scalar α] in
private theorem Due.mem_worms {op : Operation α} (h : w.Due worm op) : worm ∈ w.worms := by
  cases h with
  | opens hopens => exact List.mem_of_head? hopens.2
  | follows _ _ hnext => exact List.mem_of_getElem? hnext

/-- To let the worm at a place rest is to replace it. -/
theorem modify_rested_eq {worms : List (Worm α)} (hnodup : (worms.map Worm.id).Nodup)
    (hnext : worms[index]? = some next) :
    worms.modify index Worm.rested = replaceWorm next.rested worms := by
  induction worms generalizing index with
  | nil => simp at hnext
  | cons first worms ih =>
    obtain ⟨hfirst, hnodup⟩ := List.nodup_cons.mp hnodup
    cases index with
    | zero =>
      obtain rfl : first = next := by simpa using hnext
      rw [List.modify_zero_cons, replaceWorm, Worm.id_rested, if_pos rfl]
    | succ index =>
      have hnext : worms[index]? = some next := by simpa using hnext
      have hlisted : next.id ∈ worms.map Worm.id :=
        List.mem_map_of_mem (List.mem_of_getElem? hnext)
      have hne : first.id ≠ next.id := fun heq => hfirst (heq ▸ hlisted)
      rw [List.modify_succ_cons, replaceWorm, Worm.id_rested, if_neg hne, ih hnodup hnext]

/-- The worms at the start of a turn. -/
theorem Sound.worm?_withTurn (hs : w.Sound) (hnext : w.worms[index]? = some next) (number : Nat)
    (id : EntityId) : (w.withTurn index number).worm? id =
      if next.id = id then some next.rested else w.worm? id := by
  have hlisted : w.worm? next.id = some next := hs.worm?_of_mem (List.mem_of_getElem? hnext)
  show (w.worms.modify index Worm.rested).find? _ = _
  rw [modify_rested_eq hs.nodup hnext, find?_replaceWorm, Worm.id_rested]
  by_cases hid : next.id = id
  · have hfound : w.worms.find? (fun worm => worm.id = id) = some next := hid ▸ hlisted
    rw [if_pos hid, if_pos hid, hfound]
    rfl
  · rw [if_neg hid, if_neg hid]
    rfl

end World

/-! ### Steps of a game -/

namespace Simulation

open World

variable {s s' : Simulation α} {op : Option (Operation α)} {worm : Worm α} {id : EntityId}

/-- A step in which nobody is handed the turn and nobody gains points. -/
structure Idles (s s' : Simulation α) : Prop where
  turn : s.handed s' = none
  noGain : ∀ id worm worm', s.world.worm? id = some worm → s'.world.worm? id = some worm' →
    worm.NoGain worm'

omit [Scalar α] in
/-- A step that leaves the worms alone and hands on no turn. -/
theorem Idles.of_worms (hturn : s.handed s' = none) (hworms : s'.world.worms = s.world.worms) :
    s.Idles s' := by
  refine ⟨hturn, fun id worm worm' hworm hworm' => ?_⟩
  rw [worm?, hworms] at hworm'
  cases hworm.symm.trans hworm'
  exact .refl worm

/-- A step in which a worm is handed the turn. -/
structure HandsTurn (s s' : Simulation α) (next : Worm α) : Prop where
  turn : s.handed s' = some next.id
  worms : ∀ id, s'.world.worm? id =
    if next.id = id then some next.rested else s.world.worm? id

private theorem HandsTurn.of_withTurn (hs : s.world.Sound) {index number : Nat} {next : Worm α}
    (hs' : s'.world = s.world.withTurn index number) (hnumber : s.world.turnNumber? ≠ some number)
    (hnext : s.world.worms[index]? = some next) : s.HandsTurn s' next := by
  refine ⟨handed_withTurn hs' hnumber hnext, fun id => ?_⟩
  rw [hs']
  exact hs.worm?_withTurn hnext number id

/-- **The turn is handed to the worm that is due**, and in every other step nobody gains points. -/
theorem Step.turn_cases (h : s.Step op s') (hs : s.world.Sound) :
    (s.Idles s' ∧ (op = some .start → ∀ worm, s.world.Opens worm →
        Scalar.maxPoints < worm.regained)) ∨
      ∃ next op', op = some op' ∧ s.world.Due next op' ∧ s.HandsTurn s' next ∧
        next.regained ≤ Scalar.maxPoints := by
  have hcourse := h.course hs
  generalize hw : s'.world = w' at hcourse
  have hnobody : w'.currentWorm? = none → s.handed s' = none :=
    fun hnone => handed_eq_none_of_currentWorm? (hw ▸ hnone)
  cases hcourse with
  | within traffic hbegun hchanges =>
    subst hw
    refine .inl ⟨⟨handed_eq_none hchanges.state.1, fun id worm worm' hworm hworm' => ?_⟩,
      fun hop worm hopens => ?_⟩
    · have hfate := hchanges.fate hs id
      rw [hworm, hworm'] at hfate
      exact hfate.noGain
    · have hfirst : s.world.worms[0]? = some worm := List.head?_eq_getElem? ▸ hopens.2
      exact Nat.lt_of_not_le (mt (regainsAt_iff hfirst).mpr (hbegun hop hopens.1))
  | staysEmpty _ hnil =>
    refine .inl ⟨.of_worms (hnobody rfl) (by rw [hw]), fun _ worm hopens => ?_⟩
    have hhead := hopens.2
    rw [hnil] at hhead
    cases hhead
  | opens hstate hworms hfits =>
    obtain ⟨next, rest, hsplit⟩ := List.exists_cons_of_ne_nil hworms
    have hnext : s.world.worms[0]? = some next := by rw [hsplit]; rfl
    have hnumber : s.world.turnNumber? ≠ some 1 := by simp [turnNumber?, hstate]
    have hdue : s.world.Due next .start := .opens ⟨hstate, by rw [hsplit]; rfl⟩
    exact .inr ⟨next, .start, rfl, hdue, .of_withTurn hs hw hnumber hnext, hfits next hnext⟩
  | isOver =>
    exact .inl ⟨.of_worms (hnobody rfl) (by rw [hw]), by rintro ⟨⟩⟩
  | @handsOn turn hturn hgoes hfits =>
    obtain ⟨next, hnext, -⟩ := exists_living_nextIndex hgoes turn
    have hnumber : s.world.turnNumber? ≠ some (turn.number + 1) := by simp [turnNumber?, hturn]
    exact .inr ⟨next, .startNextTurn, rfl, .follows hturn hgoes hnext,
      .of_withTurn hs hw hnumber hnext, hfits next hnext⟩
  | terminates =>
    refine .inl ⟨⟨hnobody rfl, fun id worm worm' _ hworm' => ?_⟩, by rintro ⟨⟩⟩
    rw [hw] at hworm'
    cases hworm'

/-- **A dead worm gets the turn exactly if it opens the game**, and it comes back to life exactly if
it also has hit points then. -/
theorem Reachable.raised_iff (hs : s.Reachable) (h : s.Step op s') :
    (∀ id, s.handed s' = some id → (s.world.worm? id).isSome) ∧
      ∀ id worm, s.world.worm? id = some worm → worm.isAlive = false →
        (s.handed s' = some id ↔ op = some .start ∧ s.world.Opens worm) ∧
          ∀ worm', s'.world.worm? id = some worm' → (worm'.isAlive = true ↔
            op = some .start ∧ s.world.Opens worm ∧ worm.rested.isAlive = true) := by
  rcases h.turn_cases hs.sound with ⟨hidle, hno⟩ | ⟨next, op', rfl, hdue, hhands, -⟩
  · refine ⟨fun id hturn => (by cases hidle.turn.symm.trans hturn), ?_⟩
    intro id worm hworm hdead
    have hfits : worm.regained ≤ Scalar.maxPoints := Worm.regained_le_of_dead hdead
    refine ⟨⟨fun hturn => (by cases hidle.turn.symm.trans hturn), ?_⟩, fun worm' hworm' => ⟨?_, ?_⟩⟩
    · rintro ⟨hop, hopens⟩
      exact absurd (hno hop worm hopens) (Nat.not_lt.mpr hfits)
    · intro halive
      have hless := (hidle.noGain id worm worm' hworm hworm').hitPoints_le
      rw [Worm.isAlive, decide_eq_true_eq] at halive
      rw [Worm.isAlive, decide_eq_false_iff_not] at hdead
      omega
    · rintro ⟨hop, hopens, -⟩
      exact absurd (hno hop worm hopens) (Nat.not_lt.mpr hfits)
  · have hlisted : s.world.worm? next.id = some next := hs.sound.worm?_of_mem hdue.mem_worms
    have hwhy := hdue.opens_or_alive
    refine ⟨fun id hturn => ?_, fun id worm hworm hdead => ?_⟩
    · cases hhands.turn.symm.trans hturn
      rw [hlisted]
      rfl
    by_cases hid : next.id = id
    · -- The turn went to this very worm, which then has opened the game.
      obtain rfl : next = worm := Option.some.inj (hlisted.symm.trans (hid ▸ hworm))
      obtain ⟨rfl, hopens⟩ | ⟨-, halive⟩ := hwhy
      · refine ⟨iff_of_true (hid ▸ hhands.turn) ⟨rfl, hopens⟩, fun worm' hworm' => ?_⟩
        rw [hhands.worms, if_pos hid] at hworm'
        obtain rfl := Option.some.inj hworm'
        exact ⟨fun halive => ⟨rfl, hopens, halive⟩, fun h => h.2.2⟩
      · cases hdead.symm.trans halive
    · have hother : ¬(some op' = some .start ∧ s.world.Opens worm) := by
        rintro ⟨hop, hopens⟩
        obtain ⟨-, hopens'⟩ | ⟨rfl, -⟩ := hwhy
        · cases hopens.2.symm.trans hopens'.2
          exact hid (id_of_worm? hworm)
        · cases hop
      have hturn : s.handed s' ≠ some id := by
        rw [hhands.turn]
        exact fun heq => hid (Option.some.inj heq)
      refine ⟨iff_of_false hturn hother, fun worm' hworm' => ?_⟩
      rw [hhands.worms, if_neg hid] at hworm'
      cases hworm.symm.trans hworm'
      rw [hdead]
      exact ⟨nofun, fun h => absurd ⟨h.1, h.2.1⟩ hother⟩

/-- A dead worm, and a living one behind it, before the game begins. -/
def wake : Simulation Rat :=
  let worm (id : EntityId) : Worm Rat := .fresh "Ann" ⟨5, 5⟩ 0 0.5 default id
  let start : Simulation Rat := { world := .fresh ⟨1⟩ (.empty 100 100) default, ids := ⟨3⟩ }
  start.after [.addWorm ((worm ⟨1⟩).damage 1000), .addWorm (worm ⟨2⟩)]

private theorem reachable_wake : wake.Reachable := by
  have hmade : ∀ id, (Worm.fresh "Ann" ⟨5, 5⟩ 0 0.5 default id : Worm Rat).Made := by
    intro id
    refine .make (Worm.make_eq_ok_iff.mpr ⟨?_, ?_, ?_, rfl⟩)
    all_goals decide +kernel
  refine (Reachable.onGrid ⟨3⟩ (World.onGrid_eq_ok_iff.mpr ⟨?_, rfl⟩)).after
    ⟨⟨.change (hmade _) (.damage 1000), ?_⟩, ⟨hmade _, ?_⟩, trivial⟩
  all_goals decide +kernel

/-- The dead worm opens the game and comes back to life by it. -/
theorem raised_wake : ∃ worm worm', wake.world.worm? ⟨1⟩ = some worm ∧ worm.hitPoints = 0 ∧
    wake.handed (wake.after [.start]) = some ⟨1⟩ ∧
      (wake.after [.start]).world.worm? ⟨1⟩ = some worm' ∧ worm'.isAlive = true := by
  have hstep : wake.Step (some .start) (wake.after [.start]) := .operate .start trivial
  have hdead : (wake.world.worm? ⟨1⟩).any (fun worm => decide (worm.hitPoints = 0 ∧
      worm.rested.isAlive = true)) = true := by decide +kernel
  obtain ⟨worm, hworm, hdead⟩ := (Option.any_eq_true _ _).mp hdead
  obtain ⟨hpoints, hraised⟩ := of_decide_eq_true hdead
  have hopens : wake.world.Opens worm := by
    have hhead : wake.world.worms.head? = wake.world.worm? ⟨1⟩ := rfl
    exact ⟨rfl, hhead.trans hworm⟩
  have hthere : ((wake.after [.start]).world.worm? ⟨1⟩).isSome = true := by decide +kernel
  obtain ⟨worm', hworm'⟩ := Option.isSome_iff_exists.mp hthere
  obtain ⟨hturn, halive⟩ := (reachable_wake.raised_iff hstep).2 ⟨1⟩ worm hworm
    (by rw [Worm.isAlive, hpoints]; rfl)
  exact ⟨worm, worm', hworm, hpoints, hturn.mpr ⟨rfl, hopens⟩, hworm',
    (halive worm' hworm').mpr ⟨rfl, hopens, hraised⟩⟩

/-- Not only living worms are handed a turn, and not all dead worms stay dead. -/
theorem not_only_living_handed : ¬∀ (s s' : Simulation Rat) (op : Option (Operation Rat)),
    s.Reachable → s.Step op s' → (∀ id, s.handed s' = some id → s.world.Living id) ∧
      ∀ id worm worm', s.world.worm? id = some worm → s'.world.worm? id = some worm' →
        worm.hitPoints = 0 → worm'.hitPoints = 0 := by
  intro h
  have hstep : wake.Step (some .start) (wake.after [.start]) := .operate .start trivial
  have hturn : wake.handed (wake.after [.start]) = some ⟨1⟩ := by decide +kernel
  have hdead : ¬wake.world.Living ⟨1⟩ := by decide +kernel
  exact hdead ((h _ _ _ reachable_wake hstep).1 _ hturn)

end Simulation

end WormBattle
