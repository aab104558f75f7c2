import Appraisal.Proofs.Json.Canonical
import Appraisal.Valuation.Configuration

/-!
# What a checksum covers

The canonical text of a configuration can be read in one way only, so it is that of one currency and
one list of rules. Configurations that differ in them have one checksum only where the hash itself
collides.
-/

namespace Appraisal

open Json

/-! ### Rules -/

namespace Rule

variable {convert : Datum → Option Text} {depth : Nat}

structure IsPlain (r : Rule) : Prop where
  name : r.name.IsPlain
  account : r.account.IsPlain
  formula : r.formula.IsPlain
  noteContains : r.noteContains.IsPlain

def asked (r : Rule) : List (Text × Datum) :=
  if r.noteContains = "" then [] else [("note_contains", .text r.noteContains)]

def ordered (r : Rule) : Datum :=
  .object (("account", .text r.account) :: ("formula", .text r.formula) ::
    ("name", .text r.name) :: r.asked)

theorem write_datum (r : Rule) :
    write (oneLine convert) depth r.datum = write (oneLine convert) depth r.ordered := by
  refine write_object_perm ((List.Perm.swap _ _ _).trans ((List.Perm.swap _ _ _).cons _)) ?_
  split
  · show ([("name" : Text), "account", "formula"]).Nodup
    decide
  · show ([("name" : Text), "account", "formula", "note_contains"]).Nodup
    decide

theorem textual_ordered {r : Rule} (h : r.IsPlain) : Textual r.ordered := by
  unfold ordered asked
  have hkey : ∀ k : String, (Text.ofString k).IsPlain := Text.isPlain_ofString
  split
  · refine .object ?_ ?_ ?_
    · simp [hkey]
    · show ([("account" : Text), "formula", "name"]).Pairwise (fun s t => s.before t = true)
      decide
    · simp [Textual.text, h.name, h.account, h.formula]
  · refine .object ?_ ?_ ?_
    · simp [hkey]
    · show ([("account" : Text), "formula", "name", "note_contains"]).Pairwise
        (fun s t => s.before t = true)
      decide
    · simp [Textual.text, h.name, h.account, h.formula, h.noteContains]

/-- A rule is known by its entries: a text that is asked of the note is not empty. -/
theorem ordered_inj {r r' : Rule} : r.ordered = r'.ordered ↔ r = r' := by
  refine ⟨fun h => ?_, fun h => by rw [h]⟩
  obtain ⟨name, account, formula, noteContains⟩ := r
  obtain ⟨name', account', formula', noteContains'⟩ := r'
  by_cases hn : noteContains = "" <;> by_cases hn' : noteContains' = "" <;>
    simp_all [ordered, asked, Datum.object]

end Rule

/-! ### Configurations -/

namespace Configuration

structure IsPlain (c : Configuration) : Prop where
  currency : c.currency.IsPlain
  rules : ∀ r ∈ c.rules, r.IsPlain

def ordered (c : Configuration) : Datum :=
  .object [("default_currency", .text c.currency), ("rules", .list (c.rules.map Rule.ordered))]

theorem canonical_datum (c : Configuration) : canonical c.datum = canonical c.ordered := by
  have hrules (depth : Nat) (rules : List Rule) :
      writeItems (oneLine displayed) depth (rules.map Rule.datum) =
        writeItems (oneLine displayed) depth (rules.map Rule.ordered) := by
    induction rules with
    | nil => rfl
    | cons r rules ih => rw [List.map_cons, List.map_cons, writeItems, writeItems, ih, r.write_datum]
  have hlist (depth : Nat) : write (oneLine displayed) depth (.list (c.rules.map Rule.datum)) =
      write (oneLine displayed) depth (.list (c.rules.map Rule.ordered)) := by
    rw [write, write, hrules]
  show write (oneLine displayed) 0 c.datum = write (oneLine displayed) 0 c.ordered
  rw [datum, ordered, write_object, write_object]
  simp only [List.map_cons, List.map_nil, hlist]

theorem textual_ordered {c : Configuration} (h : c.IsPlain) : Textual c.ordered := by
  have hrules : Textual (.list (c.rules.map Rule.ordered)) := by
    refine .list (fun d hd => ?_)
    obtain ⟨r, hr, rfl⟩ := List.mem_map.1 hd
    exact Rule.textual_ordered (h.rules r hr)
  refine .object ?_ ?_ ?_
  · simp [Text.isPlain_ofString]
  · show ([("default_currency" : Text), "rules"]).Pairwise (fun s t => s.before t = true)
    decide
  · simp [Textual.text, h.currency, hrules]

theorem ordered_inj {c c' : Configuration} :
    c.ordered = c'.ordered ↔ c.currency = c'.currency ∧ c.rules = c'.rules := by
  have hrules : c.rules.map Rule.ordered = c'.rules.map Rule.ordered ↔ c.rules = c'.rules :=
    List.map_inj_right (fun _ _ => Rule.ordered_inj.1)
  simp [ordered, Datum.object, hrules]

/-- The canonical text is read back as what the checksum covers. -/
theorem reads_canonicalText {c : Configuration} (h : c.IsPlain) :
    canonical c.datum = .ok c.canonicalText ∧ Reads c.ordered c.canonicalText.toList := by
  obtain ⟨s, hs, hreads⟩ : ∃ s, canonical c.ordered = .ok s ∧ Reads c.ordered s.toList :=
    (textual_ordered h).exists_write 0
  have hcanonical : canonical c.datum = .ok s := c.canonical_datum.trans hs
  have htext : c.canonicalText = s := by rw [canonicalText, hcanonical]
  rw [htext]
  exact ⟨hcanonical, hreads⟩

theorem canonicalText_inj {c c' : Configuration} (h : c.IsPlain) (h' : c'.IsPlain) :
    c.canonicalText = c'.canonicalText ↔ c.currency = c'.currency ∧ c.rules = c'.rules := by
  constructor
  · intro htext
    have hreads := (reads_canonicalText h).2
    rw [htext] at hreads
    exact ordered_inj.1 (hreads.eq (reads_canonicalText h').2)
  · rintro ⟨hcurrency, hrules⟩
    rw [canonicalText, canonicalText, datum, datum, hcurrency, hrules]

end Configuration

def Sha256.Collides (s t : String) : Prop := s ≠ t ∧ hexDigest s = hexDigest t

namespace Configuration

/-- Every configuration of plain texts has a canonical text, which is that of no other currency and
no other list of rules. Two of them that differ have one checksum only if the hash collides on their
canonical texts. Where a configuration was read from does not count. -/
theorem checksum_covers (c c' : Configuration) (h : c.IsPlain) (h' : c'.IsPlain) :
    canonical c.datum = .ok c.canonicalText ∧ c.checksum = Sha256.hexDigest c.canonicalText ∧
      (c.canonicalText = c'.canonicalText ↔ c.currency = c'.currency ∧ c.rules = c'.rules) ∧
      (c.checksum = c'.checksum ↔ (c.currency = c'.currency ∧ c.rules = c'.rules) ∨
        Sha256.Collides c.canonicalText c'.canonicalText) ∧
      ∀ source, ({ c with source } : Configuration).checksum = c.checksum := by
  refine ⟨(reads_canonicalText h).1, rfl, canonicalText_inj h h', ?_, fun _ => rfl⟩
  rw [← canonicalText_inj h h']
  constructor
  · intro hsum
    by_cases htext : c.canonicalText = c'.canonicalText
    · exact .inl htext
    · exact .inr ⟨htext, hsum⟩
  · rintro (htext | ⟨-, hsum⟩)
    · rw [checksum, checksum, htext]
    · exact hsum

/-- A name that looks like a name and a note does not stand for them. -/
def forged : Configuration :=
  ⟨"💰", [⟨"a\", \"note_contains\": \"b", "Loans:*", "amount", ""⟩], "forged.yaml"⟩

def genuine : Configuration := ⟨"💰", [⟨"a", "Loans:*", "amount", "b"⟩], "genuine.yaml"⟩

theorem checksum_covers_forged :
    canonical forged.datum = .ok forged.canonicalText ∧
      forged.canonicalText ≠ genuine.canonicalText ∧
      (forged.checksum = genuine.checksum ↔
        Sha256.Collides forged.canonicalText genuine.canonicalText) := by
  have hplain (currency name account formula note source : String) :
      IsPlain ⟨currency, [⟨name, account, formula, note⟩], source⟩ := by
    refine ⟨Text.isPlain_ofString _, fun r hr => ?_⟩
    obtain rfl := List.mem_singleton.1 hr
    exact ⟨Text.isPlain_ofString _, Text.isPlain_ofString _, Text.isPlain_ofString _,
      Text.isPlain_ofString _⟩
  obtain ⟨hcanonical, -, htext, hsum, -⟩ :=
    checksum_covers forged genuine (hplain _ _ _ _ _ _) (hplain _ _ _ _ _ _)
  have hrules : ¬ (forged.currency = genuine.currency ∧ forged.rules = genuine.rules) := by decide
  exact ⟨hcanonical, fun h => hrules (htext.1 h), hsum.trans (or_iff_right hrules)⟩

end Configuration

end Appraisal
