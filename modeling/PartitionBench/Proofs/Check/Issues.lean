import Mathlib.Data.List.Basic
import PartitionBench.Check

/-!
Contract: where checks complain.

Owns:
- the complaints of a check about one place of a value and what is inside it;
- that a check that consists of others complains about a place as the part that reads this place;
- what is said of the issues of a list of texts, one text at a time.

Does not own: what is accepted (`Proofs.Check`).
-/

namespace PartitionBench

open PartitionBench.Document

variable {α β : Type}

namespace Checked

/-- The messages of the issues at a place or inside it, in order. -/
def complaintsAt (place : List Step) (checked : Checked α) : List String :=
  (checked.issues.filter fun issue => place <+: issue.place).map fun issue => issue.cause.message

theorem issues_map (f : α → β) (checked : Checked α) : (f <$> checked).issues = checked.issues :=
  rfl

theorem issues_seq (f : Checked (α → β)) (checked : Checked α) :
    (f <*> checked).issues = f.issues ++ checked.issues :=
  rfl

theorem issues_under (step : Step) (checked : Checked α) :
    (checked.under step).issues = checked.issues.map (Issue.under step) :=
  rfl

theorem complaintsAt_map (f : α → β) (checked : Checked α) (place : List Step) :
    (f <$> checked).complaintsAt place = checked.complaintsAt place :=
  rfl

theorem complaintsAt_seq (f : Checked (α → β)) (checked : Checked α) (place : List Step) :
    (f <*> checked).complaintsAt place = f.complaintsAt place ++ checked.complaintsAt place := by
  rw [complaintsAt, issues_seq, List.filter_append, List.map_append]
  rfl

/-- Seen from one step further out, the same is complained about the place behind this step. -/
theorem complaintsAt_inside (step : Step) (checked : Checked α) (place : List Step) :
    (checked.under step).complaintsAt (step :: place) = checked.complaintsAt place := by
  simp [complaintsAt, under, Issue.under, List.filter_map, Function.comp_def]

theorem complaintsAt_elsewhere {step other : Step} (differs : other ≠ step) (checked : Checked α)
    (place : List Step) : (checked.under step).complaintsAt (other :: place) = [] := by
  simp [complaintsAt, under, Issue.under, List.filter_map, Function.comp_def, differs]

end Checked

namespace Check

open Checked

theorem complaintsAt_items_before {check : Value → Checked α} {index number : Nat}
    (before : number < index) (values : List Value) (place : List Step) :
    (items check index values).complaintsAt (.item number :: place) = [] := by
  induction values generalizing index with
  | nil => rfl
  | cons value rest inductionHypothesis =>
      have isOther : Step.item number ≠ .item index := by
        simp only [ne_eq, Step.item.injEq]
        omega
      rw [items, complaintsAt_seq, complaintsAt_map, complaintsAt_elsewhere isOther,
        inductionHypothesis (by omega), List.append_nil]

/-- What is complained about an item is what the check of this item complains about. -/
theorem complaintsAt_items {check : Value → Checked α} {index offset : Nat} {values : List Value}
    {value : Value} (isItem : values[offset]? = some value) (place : List Step) :
    (items check index values).complaintsAt (.item (index + offset) :: place) =
      (check value).complaintsAt place := by
  induction values generalizing index offset with
  | nil => cases isItem
  | cons first rest inductionHypothesis =>
      rw [items, complaintsAt_seq, complaintsAt_map]
      cases offset with
      | zero =>
          cases isItem
          rw [Nat.add_zero, complaintsAt_inside, complaintsAt_items_before (Nat.lt_succ_self index),
            List.append_nil]
      | succ offset =>
          have isOther : Step.item (index + (offset + 1)) ≠ .item index := by
            simp only [ne_eq, Step.item.injEq]
            omega
          rw [complaintsAt_elsewhere isOther, List.nil_append, ← Nat.add_assoc,
            Nat.add_right_comm]
          exact inductionHypothesis isItem

/-- What is wrong with a list as such is not complained about any of its items. -/
theorem complaintsAt_listWith {causes : List Value → List Cause} {check : Value → Checked α}
    {index : Nat} {values : List Value} {value : Value} (isItem : values[index]? = some value)
    (place : List Step) :
    (listWith causes check (.list values)).complaintsAt (.item index :: place) =
      (check value).complaintsAt place := by
  have ofItems := @complaintsAt_items α check 0 index values value isItem place
  rw [Nat.zero_add] at ofItems
  rw [← ofItems, complaintsAt, complaintsAt, listWith, List.filter_append]
  simp [List.filter_map, Function.comp_def]

/-! ## Issues in words -/

/-- The issues of items are those of the items one after another, each seen from the place of its
item. -/
theorem issues_items (check : Value → Checked α) (index : Nat) (values : List Value) :
    (items check index values).issues = (values.zipIdx index).flatMap fun entry =>
      (check entry.1).issues.map (Issue.under (.item entry.2)) := by
  induction values generalizing index with
  | nil => rfl
  | cons value rest inductionHypothesis =>
      rw [List.zipIdx_cons, List.flatMap_cons, ← inductionHypothesis]
      rfl

/-- A list of texts is spoken of as a whole when it is empty, and else through its texts in their
order, when it is told of each what is said of it at its place. -/
theorem issues_listOr_map {say : Issue → String} {cause : Cause} {check : Value → Checked α}
    {texts : List String} {said : String → Option String}
    (ofText : ∀ index text, texts[index]? = some text →
      (check (.text text)).issues.map (fun issue => say (issue.under (.item index))) =
        (said text).toList) :
    (listOr cause check (.ofTexts texts)).issues.map say =
      if texts = [] then [say ⟨[], cause⟩] else texts.filterMap said := by
  have ofItems : (items check 0 (texts.map .text)).issues.map say = texts.filterMap said := by
    rw [issues_items, List.zipIdx_map, List.flatMap_map, List.map_flatMap,
      List.filterMap_eq_flatMap_toList]
    conv_rhs => rw [← List.zipIdx_map_fst 0 texts, List.flatMap_map]
    refine List.flatMap_congr fun entry member => ?_
    rw [List.map_map]
    exact ofText entry.2 entry.1 (List.mem_zipIdx_iff_getElem?.mp member)
  change (_ ++ (items check 0 (texts.map .text)).issues).map say = _
  rw [List.map_append, ofItems]
  cases texts <;> rfl

end Check

end PartitionBench
