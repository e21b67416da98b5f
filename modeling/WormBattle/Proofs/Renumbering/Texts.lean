import Mathlib.Data.List.Forall2
import WormBattle.Battle
import WormBattle.Proofs.Renumbering.Shift

/-!
# Texts under other numbers

A text about a value or a refusal names at most one entity. Under other numbers this one name is
another, and the rest of the text is the same (`Value.text_shift`, `Error.message_shift`). What
onlookers are told changes in the same way (`EventLog.report_shift`).
-/

namespace WormBattle

variable {α : Type} {d : Nat}

/-- A text and the same text under shifted numbers, where `named` is the one entity that it
names. -/
def SameText (d : Nat) (named : Option EntityId) (text text' : String) : Prop :=
  match named with
  | none => text' = text
  | some id => ∃ before after, text = before ++ (id.text ++ after) ∧
      text' = before ++ ((id.shift d).text ++ after)

/-- The entity that a value refers to. -/
def Value.entity? : Value α → Option EntityId
  | .entity id => id
  | .double _ | .bool _ => none

/-- The entity that a refusal names. -/
def Error.entity? : Error α → Option EntityId
  | notInThisWorld id | notPlaced id | notAWorm id | notFood id | alreadyHere id
  | inAnotherWorld id | entityTerminated id | stillListed id | alreadyTerminated id
  | nowhereToMove id | cannotFall id | neverLanded id | cannotJump id
  | firesInsideTerrain id => some id
  | _ => none

/-- **In a printed value only the name of the entity differs.** -/
theorem Value.text_shift (v : Value Float) : SameText d v.entity? v.text (v.shift d).text := by
  match v with
  | .double _ | .bool _ | .entity none => rfl
  | .entity (some id) =>
    refine ⟨"", "", ?_, ?_⟩
    · rw [String.append_empty, String.empty_append]
      rfl
    · rw [String.append_empty, String.empty_append]
      rfl

/-- **In a message only the name of the entity differs.** -/
theorem Error.message_shift (e : Error Float) :
    SameText d e.entity? e.message (e.shift d).message := by
  cases e with
  | notInThisWorld | notPlaced | notAWorm | notFood | alreadyHere | inAnotherWorld
  | entityTerminated | stillListed | alreadyTerminated | nowhereToMove | cannotFall | neverLanded
  | cannotJump | firesInsideTerrain => exact ⟨_, _, rfl, rfl⟩
  | _ => rfl

/-- An event and the same event under shifted numbers. -/
inductive Event.Shifts (d : Nat) : Event Float → Event Float → Prop where
  | print (v : Value Float) : Shifts d (print v.text) (print (v.shift d).text)
  | moved (worm : EntityId) : Shifts d (moved worm) (moved (worm.shift d))
  | turned (worm : EntityId) (angle : Float) :
      Shifts d (turned worm angle) (turned (worm.shift d) angle)
  | jumped (worm : EntityId) : Shifts d (jumped worm) (jumped (worm.shift d))
  | fired (worm : EntityId) (yieldPercent : Nat) :
      Shifts d (fired worm yieldPercent) (fired (worm.shift d) yieldPercent)
  | selectedNextWeapon (worm : EntityId) :
      Shifts d (selectedNextWeapon worm) (selectedNextWeapon (worm.shift d))

private theorem Event.ofEffect?_shift (effect : Effect Float) :
    Option.Rel (Shifts d) (ofEffect? Value.text effect)
      (ofEffect? Value.text (effect.shift d)) := by
  cases effect with
  | assigned | asked => exact .none
  | printed v => exact .some (.print v)
  | done worm action =>
    cases action with
    | turn angle => exact .some (.turned worm angle)
    | move => exact .some (.moved worm)
    | jump => exact .some (.jumped worm)
    | fire yieldPercent => exact .some (.fired worm yieldPercent)
    | toggleWeapon => exact .some (.selectedNextWeapon worm)

/-- **Onlookers are told the same**, up to the numbers. -/
theorem EventLog.report_shift (effects : List (Effect Float)) :
    List.Forall₂ (Event.Shifts d) (report {} Value.text effects).events
      (report {} Value.text (effects.map (Effect.shift d))).events := by
  show List.Forall₂ _ (effects.filterMap _) ((effects.map _).filterMap _)
  induction effects with
  | nil => exact .nil
  | cons effect rest ih =>
    have heffect := Event.ofEffect?_shift (d := d) effect
    rw [List.map_cons, List.filterMap_cons, List.filterMap_cons]
    generalize Event.ofEffect? Value.text effect = event at heffect ⊢
    generalize Event.ofEffect? Value.text (effect.shift d) = event' at heffect ⊢
    cases heffect with
    | none => exact ih
    | some hevent => exact .cons hevent ih

end WormBattle
