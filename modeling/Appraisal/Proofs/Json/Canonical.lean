import Mathlib.Data.List.Nodup
import Appraisal.Proofs.Json.Reading

/-!
# Canonical texts

The canonical text of a mapping does not depend on the order of its entries. The canonical text of
data made of plain texts, lists and mappings is read back as those data, with the entries of each
mapping in the order of their keys.
-/

namespace Appraisal

open Outcome

namespace Datum

variable {α : Type} {fs gs : List (Text × α)}

/-- Entries with texts for keys are sorted by these texts. -/
theorem sortedEntries_text (fs : List (Text × α)) :
    sortedEntries (fs.map (fun f => (text f.1, f.2))) =
      .ok ((sorted (fun a b => a.1.before b.1) (fs.map (fun f => (f.1, (text f.1, f.2))))).map
        Prod.snd) := by
  have hlabelled : (fs.map (fun f => (text f.1, f.2))).mapM
      (fun e => e.1.asText?.map (fun s => (s, e))) =
        some (fs.map (fun f => (f.1, (text f.1, f.2)))) := by
    induction fs with
    | nil => rfl
    | cons f fs ih =>
        rw [List.map_cons, List.mapM_cons, ih]
        rfl
  rw [sortedEntries, hlabelled]

/-- Entries in the order of their keys stay as they are. -/
theorem sortedEntries_of_pairwise (h : fs.Pairwise (fun a b => a.1.before b.1 = true)) :
    sortedEntries (fs.map (fun f => (text f.1, f.2))) = .ok (fs.map (fun f => (text f.1, f.2))) := by
  have hsorted : sorted (fun a b => a.1.before b.1) (fs.map (fun f => (f.1, (text f.1, f.2)))) =
      fs.map (fun f => (f.1, (text f.1, f.2))) :=
    sorted_of_pairwise (List.pairwise_map.2 (h.imp Text.not_before_of_before))
  rw [sortedEntries_text, hsorted, List.map_map]
  rfl

/-- The order in which entries with different keys are given does not count. -/
theorem sortedEntries_perm (hp : fs.Perm gs) (hn : (fs.map Prod.fst).Nodup) :
    sortedEntries (fs.map (fun f => (text f.1, f.2))) =
      sortedEntries (gs.map (fun f => (text f.1, f.2))) := by
  have htrans (a b c : Text × Datum × α) (hab : a.1.before b.1 = true)
      (hbc : b.1.before c.1 = true) : a.1.before c.1 = true := Text.before_trans hab hbc
  have hirrefl (a : Text × Datum × α) : a.1.before a.1 = false := a.1.before_irrefl
  have hsorted := perm_sorted (fun a b : Text × Datum × α => a.1.before b.1)
  rw [sortedEntries_text, sortedEntries_text]
  refine congrArg (fun es => Except.ok (List.map Prod.snd es)) (List.Perm.eq_of_pairwise ?_
    (pairwise_sorted htrans hirrefl _) (pairwise_sorted htrans hirrefl _)
    ((hsorted _).trans ((hp.map _).trans (hsorted _).symm)))
  -- neither key is before the other, so they are one key and belong to one entry
  intro a b ha hb hba hab
  obtain ⟨f, hf, rfl⟩ := List.mem_map.1 ((hsorted _).mem_iff.1 ha)
  obtain ⟨g, hg, rfl⟩ := List.mem_map.1 ((hsorted _).mem_iff.1 hb)
  have hkey : f.1 = g.1 := Decidable.byContradiction (fun hne => by
    simp [Text.before_of_not_before hba hne] at hab)
  rw [List.inj_on_of_nodup_map hn hf (hp.mem_iff.2 hg) hkey]

/-! ### Whole numbers with too many digits -/

theorem holdsOverlong_list_iff {ds : List Datum} :
    (list ds).holdsOverlong = false ↔ ∀ d ∈ ds, d.holdsOverlong = false := by
  rw [holdsOverlong]
  induction ds with
  | nil => simp [anyHoldsOverlong]
  | cons d ds ih => rw [anyHoldsOverlong, Bool.or_eq_false_iff, ih, List.forall_mem_cons]

theorem holdsOverlong_object_iff {fs : List (Text × Datum)} :
    (object fs).holdsOverlong = false ↔ ∀ f ∈ fs, f.2.holdsOverlong = false := by
  rw [object, holdsOverlong]
  induction fs with
  | nil => simp [entryHoldsOverlong]
  | cons f fs ih =>
      rw [List.map_cons, entryHoldsOverlong, Bool.or_eq_false_iff, ih, List.forall_mem_cons]
      simp [holdsOverlong]

end Datum

/-! ### Canonical texts -/

namespace Json

def oneLine (convert : Datum → Option Text) : Style := ⟨true, none, convert⟩

variable {convert : Datum → Option Text} {depth : Nat}

theorem wholeText_of_holdsOverlong {n : Int} (h : (Datum.whole n).holdsOverlong = false) :
    wholeText n = .ok (intText n) := by
  rw [wholeText, if_neg (of_decide_eq_false h)]

theorem writeValues_eq_map (style : Style) (depth : Nat) (es : List (Datum × Datum)) :
    writeValues style depth es = es.map (fun e => (e.1, write style depth e.2)) := by
  induction es with
  | nil => rfl
  | cons e es ih =>
      obtain ⟨k, v⟩ := e
      exact congrArg ((k, write style depth v) :: ·) ih

theorem exists_writeItems {style : Style} {depth : Nat} {ds : List Datum}
    {P : Datum → String → Prop} (h : ∀ d ∈ ds, ∃ s, write style depth d = .ok s ∧ P d s) :
    ∃ ss, writeItems style depth ds = .ok ss ∧ List.Forall₂ P ds ss := by
  induction ds with
  | nil => exact ⟨[], rfl, .nil⟩
  | cons d ds ih =>
      obtain ⟨s, hs, hp⟩ := h d List.mem_cons_self
      obtain ⟨ss, hss, hps⟩ := ih (fun d' hd' => h d' (List.mem_cons_of_mem d hd'))
      exact ⟨s :: ss, by rw [writeItems, hs, ok_bind, hss]; rfl, .cons hp hps⟩

def writtenEntry (e : Datum × Except WriteError String) : Except WriteError String := do
  let key ← keyText e.1
  let value ← e.2
  .ok (stringText key ++ ": " ++ value)

theorem write_object (fs : List (Text × Datum)) :
    write (oneLine convert) depth (.object fs) = (do
      let written ← (Datum.sortedEntries
        ((fs.map (fun f => (f.1, write (oneLine convert) (depth + 1) f.2))).map
          (fun f => (Datum.text f.1, f.2)))).mapError .keys
      let parts ← written.mapM writtenEntry
      .ok (bracketed (oneLine convert) depth "\x7b" "\x7d" parts)) := by
  rw [Datum.object, write, writeValues_eq_map, List.map_map, List.map_map]
  rfl

/-- The canonical text of a mapping does not depend on the order of its entries. -/
theorem write_object_perm {fs gs : List (Text × Datum)} (hp : fs.Perm gs)
    (hn : (fs.map Prod.fst).Nodup) :
    write (oneLine convert) depth (.object fs) = write (oneLine convert) depth (.object gs) := by
  rw [write_object, write_object, Datum.sortedEntries_perm (hp.map _)]
  rw [List.map_map]
  exact hn

/-- On a single line, parts stand between brackets one behind the other. -/
theorem toList_bracketed {style : Style} (h : style.indent = none) (depth : Nat)
    (opening closing : Char) (parts : List String) :
    (bracketed style depth (String.ofList [opening]) (String.ofList [closing]) parts).toList =
      opening :: (joinedParts (parts.map String.toList) ++ [closing]) := by
  have hline (depth : Nat) : lineBreak style depth = "" := by
    unfold lineBreak
    rw [h]
  cases parts with
  | nil =>
      rw [bracketed, if_pos (show ([] : List String).isEmpty = true from rfl),
        String.toList_append, String.toList_ofList, String.toList_ofList]
      rfl
  | cons s ss =>
      have hcomma : (if style.indent.isSome then "," ++ "" else ", ") = ", " := by
        rw [h]
        rfl
      rw [bracketed, if_neg (by simp), hline, hline, hcomma]
      simp only [String.toList_append, String.toList_ofList, String.toList_intercalate,
        String.toList_empty, List.append_nil]
      rfl

/-- Entries whose values are written are written. -/
theorem exists_mapM_writtenEntry {style : Style} {fs : List (Text × Datum)}
    {P : Text × Datum → List Char → Prop}
    (h : ∀ f ∈ fs, ∃ s, write style depth f.2 = .ok s ∧
      P f (stringText f.1 ++ ": " ++ s).toList) :
    ∃ parts, (fs.map (fun f => (Datum.text f.1, write style depth f.2))).mapM writtenEntry =
        .ok parts ∧ List.Forall₂ P fs (parts.map String.toList) := by
  induction fs with
  | nil => exact ⟨[], rfl, .nil⟩
  | cons f fs ih =>
      obtain ⟨s, hs, hp⟩ := h f List.mem_cons_self
      obtain ⟨parts, hparts, hall⟩ := ih (fun g hg => h g (List.mem_cons_of_mem f hg))
      have hentry : writtenEntry (.text f.1, .ok s) = .ok (stringText f.1 ++ ": " ++ s) := rfl
      refine ⟨(stringText f.1 ++ ": " ++ s) :: parts, ?_, .cons hp hall⟩
      rw [List.map_cons, List.mapM_cons, hs, hentry, ok_bind, hparts]
      rfl

theorem readsEntry_written {f : Text × Datum} {s : String} (hk : f.1.IsUnpaired)
    (h : ReadsEnded f.2 s.toList) : ReadsEntry f (stringText f.1 ++ ": " ++ s).toList := by
  refine ⟨hk, s.toList, h, ?_⟩
  rw [String.toList_append, String.toList_append, List.append_assoc]
  rfl

/-- Data made of plain texts, lists and mappings whose keys are plain texts in their order. -/
inductive Textual : Datum → Prop
  | text {t : Text} (plain : t.IsPlain) : Textual (.text t)
  | list {ds : List Datum} (items : ∀ d ∈ ds, Textual d) : Textual (.list ds)
  | object {fs : List (Text × Datum)} (keys : ∀ f ∈ fs, f.1.IsPlain)
      (order : (fs.map Prod.fst).Pairwise (fun s t => s.before t = true))
      (values : ∀ f ∈ fs, Textual f.2) : Textual (.object fs)

/-- What is written of such data is read back. -/
theorem Textual.exists_write {d : Datum} (h : Textual d) (depth : Nat) :
    ∃ s, write (oneLine convert) depth d = .ok s ∧ Reads d s.toList := by
  induction h generalizing depth with
  | text plain => exact ⟨_, rfl, reads_text (isUnpaired_of_isPlain plain)⟩
  | @list ds items ih =>
      obtain ⟨ss, hss, hreads⟩ := exists_writeItems (fun d hd => ih d hd (depth + 1))
      refine ⟨_, by rw [write, hss]; rfl, ?_⟩
      rw [show "[" = String.ofList ['['] from rfl, show "]" = String.ofList [']'] from rfl,
        toList_bracketed rfl]
      exact reads_list (List.forall₂_map_right_iff.2 (hreads.imp (fun _ _ hs => hs.ended)))
  | @object fs keys order values ih =>
      have hentry : ∀ f ∈ fs, ∃ s, write (oneLine convert) (depth + 1) f.2 = .ok s ∧
          ReadsEntry f (stringText f.1 ++ ": " ++ s).toList := fun f hf => by
        obtain ⟨s, hs, hreads⟩ := ih f hf (depth + 1)
        exact ⟨s, hs, readsEntry_written (isUnpaired_of_isPlain (keys f hf)) hreads.ended⟩
      obtain ⟨parts, hparts, hentries⟩ := exists_mapM_writtenEntry hentry
      have horder : (fs.map (fun f => (f.1, write (oneLine convert) (depth + 1) f.2))).Pairwise
          (fun f g => f.1.before g.1 = true) := List.pairwise_map.2 (List.pairwise_map.1 order)
      refine ⟨_, by rw [write_object, Datum.sortedEntries_of_pairwise horder, List.map_map]; exact
        bind_eq_ok_iff.2 ⟨_, rfl, bind_eq_ok_iff.2 ⟨_, hparts, rfl⟩⟩, ?_⟩
      rw [show "\x7b" = String.ofList ['\x7b'] from rfl,
        show "\x7d" = String.ofList ['\x7d'] from rfl, toList_bracketed rfl]
      exact reads_object (order.imp Text.ne_of_before) hentries

end Json

end Appraisal
