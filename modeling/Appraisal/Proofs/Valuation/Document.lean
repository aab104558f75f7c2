import Appraisal.Proofs.Json.Reordering
import Appraisal.Proofs.Text.Basic
import Appraisal.Valuation.Document

/-!
# Configurations read back

What is read from a document is in a normal form: most texts of its rules are trimmed and it has a
currency. A configuration in normal form is read back from the document that it is written as, so
reading, writing and reading again gives what was read first.
-/

namespace Appraisal

open Outcome

/-! ### Normal forms -/

/-- No blank stands at the ends of a rule's texts. The text that is asked of the note may have some
there. -/
structure Rule.IsTrimmed (r : Rule) : Prop where
  name : r.name.trim = r.name
  account : r.account.trim = r.account
  formula : r.formula.trim = r.formula

namespace Configuration

structure IsNormal (c : Configuration) : Prop where
  currency : c.currency ≠ ""
  rules : ∀ r ∈ c.rules, r.IsTrimmed

def document (c : Configuration) : Datum :=
  .object [("default_currency", .text c.currency),
    ("custom_valuations", .list (c.rules.map Rule.datum))]

end Configuration

/-! ### What a checksum is made of -/

open Json in
theorem Rule.isJson_datum (r : Rule) : IsJson r.datum := by
  refine .object (fun f hf => ?_)
  simp only [List.mem_cons] at hf
  rcases hf with rfl | rfl | rfl | hf
  · exact .text r.name
  · exact .text r.account
  · exact .text r.formula
  · split at hf
    · cases hf
    · obtain rfl := List.mem_singleton.1 hf
      exact .text r.noteContains

theorem Rule.holdsOverlong_datum (r : Rule) : r.datum.holdsOverlong = false := by
  refine Datum.holdsOverlong_object_iff.2 (fun f hf => ?_)
  simp only [List.mem_cons] at hf
  rcases hf with rfl | rfl | rfl | hf
  · rfl
  · rfl
  · rfl
  · split at hf
    · cases hf
    · obtain rfl := List.mem_singleton.1 hf
      rfl

namespace Configuration

/-- Every configuration has a checksum. -/
theorem ofDatum_datum (c : Configuration) : Checksum.ofDatum c.datum = .ok c.checksum := by
  have hrules : Json.IsJson (.list (c.rules.map Rule.datum)) :=
    .list (List.forall_mem_map.2 (fun r _ => r.isJson_datum))
  have hjson : Json.IsJson c.datum :=
    .object (List.forall_mem_cons.2 ⟨.text c.currency, List.forall_mem_singleton.2 hrules⟩)
  have hshort : (Datum.list (c.rules.map Rule.datum)).holdsOverlong = false :=
    Datum.holdsOverlong_list_iff.2 (List.forall_mem_map.2 (fun r _ => r.holdsOverlong_datum))
  have hoverlong : c.datum.holdsOverlong = false :=
    Datum.holdsOverlong_object_iff.2
      (List.forall_mem_cons.2 ⟨rfl, List.forall_mem_singleton.2 hshort⟩)
  obtain ⟨s, hs⟩ : ∃ s, Json.canonical c.datum = .ok s := hjson.exists_write_iff.2 hoverlong
  rw [Checksum.ofDatum, checksum, canonicalText, hs]
  rfl

end Configuration

/-! ### Reading -/

namespace Document

variable {source : Text} {d : Datum} {fields : List (Datum × Datum)}

theorem rule_datum {r : Rule} (h : r.IsTrimmed) : rule r.datum = .ok r := by
  obtain ⟨name, account, formula, noteContains⟩ := r
  obtain ⟨hname, haccount, hformula⟩ := h
  by_cases hasked : noteContains = ""
  · subst hasked
    have hrule : rule (Rule.datum ⟨name, account, formula, ""⟩) =
        .ok ⟨name.trim, account.trim, formula.trim, ""⟩ := rfl
    rw [hrule, hname, haccount, hformula]
  · have hdatum : Rule.datum ⟨name, account, formula, noteContains⟩ =
        .object [("name", .text name), ("account", .text account), ("formula", .text formula),
          ("note_contains", .text noteContains)] := by
      rw [Rule.datum, if_neg hasked]
    have hrule : rule (Rule.datum ⟨name, account, formula, noteContains⟩) =
        .ok ⟨name.trim, account.trim, formula.trim, noteContains⟩ := by
      rw [hdatum]
      rfl
    rw [hrule, hname, haccount, hformula]

theorem isTrimmed_of_rule {r : Rule} (h : rule d = .ok r) : r.IsTrimmed := by
  cases d with
  | map fields =>
      simp only [rule, bind_eq_ok_iff, pure_eq_ok, Except.ok.injEq] at h
      obtain ⟨name, -, account, -, formula, -, noteContains, -, rfl⟩ := h
      exact ⟨Text.trim_trim _, Text.trim_trim _, Text.trim_trim _⟩
  | _ => cases h

theorem rules_datum {rs : List Rule} (h : ∀ r ∈ rs, r.IsTrimmed) :
    rules (.list (rs.map Rule.datum)) = .ok rs := by
  cases rs with
  | nil => rfl
  | cons r rs =>
      have hrules : rules (.list ((r :: rs).map Rule.datum)) =
          ((r :: rs).map Rule.datum).mapM rule := rfl
      have hpure : ((r :: rs).map Rule.datum).mapM rule = (r :: rs).mapM pure := by
        rw [List.mapM_map]
        exact mapM_congr (fun r hr => rule_datum (h r hr))
      rw [hrules, hpure, List.mapM_pure, List.map_id']
      rfl

theorem isTrimmed_of_rules {rs : List Rule} (h : rules d = .ok rs) : ∀ r ∈ rs, r.IsTrimmed := by
  unfold rules at h
  split_ifs at h with hgiven
  · split at h
    · exact forall_of_mapM_eq_ok (fun _ _ hr => isTrimmed_of_rule hr) h
    · cases h
  · obtain rfl := Except.ok.inj h
    exact fun r hr => by cases hr

theorem isNormal_of_configuration {c : Configuration} (h : configuration fields source = .ok c) :
    c.IsNormal ∧ c.source = source := by
  simp only [configuration, bind_eq_ok_iff, pure_eq_ok, Except.ok.injEq] at h
  obtain ⟨rs, hrs, currency, -, rfl⟩ := h
  refine ⟨⟨?_, isTrimmed_of_rules hrs⟩, rfl⟩
  show (if currency = "" then Configuration.defaultCurrency else currency) ≠ ""
  split_ifs with hempty
  · decide
  · exact hempty

theorem isNormal_of_ofDatum {c : Configuration} (h : ofDatum source d = .ok c) :
    c.IsNormal ∧ c.source = source := by
  cases d with
  | null => exact isNormal_of_configuration h
  | map fields => exact isNormal_of_configuration h
  | _ => cases h

/-- A configuration in normal form is read back from the document that it is written as. -/
theorem ofDatum_of_isNormal {c : Configuration} (h : c.IsNormal) :
    ofDatum c.source c.document = .ok c := by
  have hread : ofDatum c.source c.document = (do
      let rules ← rules (.list (c.rules.map Rule.datum))
      return ⟨if c.currency = "" then Configuration.defaultCurrency else c.currency, rules,
        c.source⟩) := rfl
  rw [hread, rules_datum h.rules, ok_bind, if_neg h.currency]
  rfl

/-- The configurations that can be read from a document are those in normal form. -/
theorem exists_ofDatum_iff {c : Configuration} :
    (∃ d, ofDatum c.source d = .ok c) ↔ c.IsNormal :=
  ⟨fun ⟨_, h⟩ => (isNormal_of_ofDatum h).1, fun h => ⟨c.document, ofDatum_of_isNormal h⟩⟩

/-- What is read from a document, of whatever form its texts are, is read again from the document that
it is written as. It has the same checksum, which is that of its currency and its rules. -/
theorem ofDatum_document {c : Configuration} (h : ofDatum source d = .ok c) :
    ofDatum source c.document = .ok c ∧ Checksum.ofDatum c.datum = .ok c.checksum := by
  obtain ⟨hnormal, rfl⟩ := isNormal_of_ofDatum h
  exact ⟨ofDatum_of_isNormal hnormal, c.ofDatum_datum⟩

/-- A document with blanks around texts, with a number and a truth value for texts and with an empty
currency. -/
def loose : Datum :=
  .object [("custom_valuations", .list [
      .object [("account", .text " Loans:* "), ("formula", .truth true), ("name", .whole 7)],
      .object [("note_contains", .text " live "), ("account", .text ""), ("formula", .text "\tamount"),
        ("name", .null)]]),
    ("default_currency", .text "")]

def tidy : Configuration :=
  ⟨"INR", [⟨"7", "Loans:*", "True", ""⟩, ⟨"", "", "amount", " live "⟩], "valuations.json"⟩

theorem ofDatum_document_tidy :
    ofDatum "valuations.json" loose = .ok tidy ∧ ofDatum "valuations.json" tidy.document = .ok tidy ∧
      Checksum.ofDatum tidy.datum = .ok tidy.checksum := by
  have hread : ofDatum "valuations.json" loose = .ok tidy := by cbv
  exact ⟨hread, ofDatum_document hread⟩

end Document

end Appraisal
