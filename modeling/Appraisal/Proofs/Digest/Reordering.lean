import Appraisal.Proofs.Digest.Fingerprint
import Appraisal.Proofs.Json.Reordering

/-!
# Hashes do not depend on the order of keys

Both ways of writing a datum for a hash, as JSON and as the input of a computation, sort the entries of
every mapping. Data that differ in the order of entries have one checksum, and inputs that differ in it
have one fingerprint, whatever the order in which they are given. An input that is null can be left
out.
-/

namespace Appraisal

open Outcome Datum

namespace Fingerprint

variable {d d' : Datum} {inputs inputs' : List (Text × Datum)} {fields : List Text}

/-! ### Texts of data -/

def writtenEntry (e : Datum × Except Fault Text) : Except Fault Text := do
  let key ← e.1.toText
  let value ← e.2
  return key ++ ":" ++ value

def written (d : Datum) : Except Fault Text := (canonical d).map (labelled d)

theorem canonicalEntries_eq_map (es : List (Datum × Datum)) :
    canonicalEntries es = es.map (fun e => (e.1, written e.2)) := by
  induction es with
  | nil => rfl
  | cons e es ih =>
      obtain ⟨k, v⟩ := e
      exact congrArg ((k, written v) :: ·) ih

theorem canonical_object (fs : List (Text × Datum)) :
    canonical (.object fs) = (do
      let es ← (sortedEntries ((fs.map (fun f => (f.1, written f.2))).map
        (fun f => (Datum.text f.1, f.2)))).mapError .ofOrder
      let parts ← es.mapM writtenEntry
      return "\x7b" ++ Text.intercalate "," parts ++ "\x7d") := by
  rw [Datum.object, canonical, canonicalEntries_eq_map, List.map_map, List.map_map]
  rfl

theorem labelled_of_reordered (h : d.Reordered d') : labelled d = labelled d' := by
  cases h with
  | refl => rfl
  | list => rfl
  | object => rfl

/-- The text of an input does not depend on the order of entries. -/
theorem canonical_of_reordered (h : d.Reordered d') : canonical d = canonical d' := by
  induction h with
  | refl d => rfl
  | @list ps items ih =>
      have hitems : (ps.map Prod.fst).mapM canonical = (ps.map Prod.snd).mapM canonical := by
        rw [List.mapM_map, List.mapM_map]
        exact mapM_congr ih
      rw [canonical, canonical, canonicalItems_eq_mapM, canonicalItems_eq_mapM, hitems]
  | @object es gs distinct values order ih =>
      have hwritten : ∀ e ∈ es, (e.1, written e.2.1) = (e.1, written e.2.2) := fun e he => by
        rw [written, written, ih e he, labelled_of_reordered (values e he)]
      have hperm : (es.map (fun e => (e.1, written e.2.2))).Perm
          (gs.map (fun f => (f.1, written f.2))) := by
        have hmap := order.map (fun f => (f.1, written f.2))
        rwa [List.map_map] at hmap
      have hkeys : ((es.map (fun e => (e.1, written e.2.2))).map Prod.fst).Nodup := by
        rwa [List.map_map]
      have hes : (es.map (fun e => (e.1, e.2.1))).map (fun f => (f.1, written f.2)) =
          es.map (fun e => (e.1, written e.2.2)) := by
        rw [List.map_map]
        exact List.map_congr_left hwritten
      rw [canonical_object, canonical_object, hes, sortedEntries_perm hperm hkeys]

/-- A mapping has a text if all its values have one. -/
theorem exists_canonical_object_iff {fs : List (Text × Datum)} :
    (∃ t, canonical (.object fs) = .ok t) ↔ ∀ f ∈ fs, ∃ t, canonical f.2 = .ok t := by
  have hentry (key : Text) (value : Except Fault Text) :
      (∃ s, writtenEntry (.text key, value) = .ok s) ↔ ∃ s, value = .ok s := exists_bind_pure_iff
  have hvalue (d : Datum) : (∃ t, written d = .ok t) ↔ ∃ t, canonical d = .ok t := exists_map_iff
  rw [canonical_object]
  refine exists_sortedEntries_iff.trans ?_
  rw [List.forall_mem_map]
  simp only [hentry, hvalue]

/-- Data of the kinds of JSON have a text unless a whole number has too many digits. -/
theorem exists_canonical_iff (h : Json.IsJson d) :
    (∃ t, canonical d = .ok t) ↔ d.holdsOverlong = false := by
  induction h with
  | null => exact iff_of_true ⟨_, rfl⟩ rfl
  | truth b => exact iff_of_true ⟨_, rfl⟩ rfl
  | whole n =>
      have hcanonical : canonical (.whole n) = (Datum.whole n).toText := rfl
      rw [hcanonical, toText]
      cases (Datum.whole n).holdsOverlong <;> simp
  | double x => exact iff_of_true ⟨_, rfl⟩ rfl
  | text t => exact iff_of_true ⟨_, rfl⟩ rfl
  | @list ds items ih =>
      have hcanonical : (∃ t, canonical (.list ds) = .ok t) ↔ ∃ ts, ds.mapM canonical = .ok ts := by
        rw [canonical, canonicalItems_eq_mapM]
        exact exists_map_iff
      rw [hcanonical, exists_mapM_iff, holdsOverlong_list_iff]
      exact forall₂_congr ih
  | @object fs values ih =>
      rw [holdsOverlong_object_iff, exists_canonical_object_iff]
      exact forall₂_congr ih

/-! ### Inputs in another order -/

/-- The inputs that are not null. -/
def given (inputs : List (Text × Datum)) : List (Text × Datum) :=
  inputs.filter (fun i => !i.2.isNull)

/-- The same inputs, each given once, in another order and with the entries of their mappings in
another order. Those that are null do not count. -/
structure Agree (inputs inputs' : List (Text × Datum)) : Prop where
  distinct : (inputs.map Prod.fst).Nodup
  distinct' : (inputs'.map Prod.fst).Nodup
  reordered : (Datum.object (given inputs)).Reordered (Datum.object (given inputs'))

theorem input_eq_of_mem (hn : (inputs.map Prod.fst).Nodup) {i : Text × Datum} (hi : i ∈ inputs) :
    input inputs i.1 = i.2 := by
  unfold input
  cases hj : inputs.find? (fun j => j.1 = i.1) with
  | none => simpa using List.find?_eq_none.1 hj i hi
  | some j =>
      have hkey : j.1 = i.1 := by simpa using List.find?_some hj
      exact congrArg Prod.snd (List.inj_on_of_nodup_map hn (List.mem_of_find?_eq_some hj) hi hkey)

theorem mem_given_iff {i : Text × Datum} : i ∈ given inputs ↔ i ∈ inputs ∧ i.2 ≠ .null := by
  rw [given, List.mem_filter]
  refine and_congr_right (fun _ => ?_)
  cases i.2 <;> simp [isNull]

theorem mem_given_of_input_ne_null {f : Text} (h : input inputs f ≠ .null) :
    (f, input inputs f) ∈ given inputs :=
  mem_given_iff.2 ⟨(input_eq_null_or_mem inputs f).resolve_left h, h⟩

/-- Inputs that agree give every field the same input in another order. -/
theorem Agree.reordered_input (h : Agree inputs inputs') (f : Text) :
    (input inputs f).Reordered (input inputs' f) := by
  have hdistinct : ((given inputs).map Prod.fst).Nodup :=
    h.distinct.sublist (List.filter_sublist.map Prod.fst)
  obtain ⟨es, hvalues, hgiven, hperm⟩ := h.reordered.exists_entries hdistinct
  by_cases hnull : input inputs f = .null
  · -- an input that is given on the other side only would come from an entry on this side
    have hnull' : input inputs' f = .null := by
      by_contra hne
      obtain ⟨e, he, heq⟩ := List.mem_map.1 (hperm.mem_iff.2 (mem_given_of_input_ne_null hne))
      have hmem : (e.1, e.2.1) ∈ given inputs := hgiven ▸ List.mem_map_of_mem he
      obtain ⟨hi, hne'⟩ := mem_given_iff.1 hmem
      rw [← (Prod.mk.inj heq).1, input_eq_of_mem h.distinct hi] at hnull
      exact hne' hnull
    rw [hnull, hnull']
    exact .refl .null
  · have hmem := mem_given_of_input_ne_null hnull
    rw [← hgiven] at hmem
    obtain ⟨e, he, heq⟩ := List.mem_map.1 hmem
    obtain ⟨hkey, hvalue⟩ := Prod.mk.inj heq
    have hmem' : (e.1, e.2.2) ∈ given inputs' := hperm.mem_iff.1 (List.mem_map_of_mem he)
    have hinput' : input inputs' e.1 = e.2.2 :=
      input_eq_of_mem h.distinct' (mem_given_iff.1 hmem').1
    rw [← hvalue, ← hkey, hinput']
    exact hvalues e he

theorem text_of_agree (h : Agree inputs inputs') : text fields inputs = text fields inputs' := by
  have hpart (f : Text) : part inputs f = part inputs' f := by
    have hinput := h.reordered_input f
    rw [part, part, canonical_of_reordered hinput, labelled_of_reordered hinput]
  rw [text_eq, text_eq, mapM_congr (fun f _ => hpart f)]

/-- Inputs of the kinds of JSON have a text unless a whole number that a field needs has too many
digits. -/
theorem exists_text_iff (h : ∀ i ∈ inputs, Json.IsJson i.2) :
    (∃ t, text fields inputs = .ok t) ↔ ∀ f ∈ fields, (input inputs f).holdsOverlong = false := by
  have hjson (f : Text) : Json.IsJson (input inputs f) := by
    rcases input_eq_null_or_mem inputs f with hnull | hmem
    · rw [hnull]
      exact .null
    · exact h _ hmem
  have hpart (f : Text) : (∃ p, part inputs f = .ok p) ↔ (input inputs f).holdsOverlong = false := by
    rw [← exists_canonical_iff (hjson f)]
    exact exists_bind_pure_iff
  have htext : (∃ t, text fields inputs = .ok t) ↔ ∃ ps, fields.mapM (part inputs) = .ok ps := by
    rw [text_eq]
    exact exists_bind_pure_iff
  rw [htext, exists_mapM_iff]
  exact forall₂_congr (fun f _ => hpart f)

/-- Neither hash depends on the order of keys: data in another order have one checksum, and inputs in
another order have one fingerprint, also when those that are null are left out. Data of the kinds of
JSON have a checksum unless a whole number has too many digits, and so do inputs have a text to hash,
which has a hash unless a surrogate stands in it. -/
theorem hashes_ignore_order (h : d.Reordered d') (hd : Json.IsJson d) (hin : Agree inputs inputs')
    (hinputs : ∀ i ∈ inputs, Json.IsJson i.2) :
    Checksum.ofDatum d = Checksum.ofDatum d' ∧
      ((∃ s, Checksum.ofDatum d = .ok s) ↔ d.holdsOverlong = false) ∧
      ofInputs fields inputs = ofInputs fields inputs' ∧
      ((∃ t, text fields inputs = .ok t) ↔ ∀ f ∈ fields, (input inputs f).holdsOverlong = false) ∧
      ((∃ s, ofInputs fields inputs = .ok s) ↔ ∃ t, text fields inputs = .ok t ∧ t.IsPlain) := by
  have hcanonical : Json.canonical d = Json.canonical d' := Json.write_of_reordered h
  refine ⟨?_, ?_, ?_, exists_text_iff hinputs, ?_⟩
  · rw [Checksum.ofDatum, Checksum.ofDatum, hcanonical]
  · rw [← @Json.IsJson.exists_write_iff Json.displayed 0 d hd]
    exact exists_map_iff
  · rw [ofInputs, ofInputs, text_of_agree hin]
  · constructor
    · rintro ⟨s, hs⟩
      exact exists_text_of_ofInputs hs
    · rintro ⟨t, ht, hplain⟩
      obtain ⟨s, -, hs⟩ := exists_ofInputs ht hplain
      exact ⟨_, hs⟩

def arranged : Datum :=
  .object [("a", .text "|"), ("b", .list [.whole 7, .object [("x", .null), ("é", .truth true)]])]

def shuffled : Datum :=
  .object [("b", .list [.whole 7, .object [("é", .truth true), ("x", .null)]]), ("a", .text "|")]

theorem reordered_shuffled : shuffled.Reordered arranged := by
  have hinner : (Datum.object [("é", .truth true), ("x", .null)]).Reordered
      (.object [("x", .null), ("é", .truth true)]) :=
    @Reordered.object [("é", .truth true, .truth true), ("x", .null, .null)] _ (by decide)
      (List.forall_mem_cons.2 ⟨.refl _, List.forall_mem_singleton.2 (.refl _)⟩) (.swap _ _ _)
  have hlist : (Datum.list [.whole 7, .object [("é", .truth true), ("x", .null)]]).Reordered
      (.list [.whole 7, .object [("x", .null), ("é", .truth true)]]) :=
    @Reordered.list [(.whole 7, .whole 7), (_, _)]
      (List.forall_mem_cons.2 ⟨.refl _, List.forall_mem_singleton.2 hinner⟩)
  exact @Reordered.object [("b", _, _), ("a", .text "|", .text "|")] _ (by decide)
    (List.forall_mem_cons.2 ⟨hlist, List.forall_mem_singleton.2 (.refl _)⟩) (.swap _ _ _)

theorem isJson_shuffled : Json.IsJson shuffled := by
  have hinner : Json.IsJson (.object [("é", .truth true), ("x", .null)]) :=
    .object (List.forall_mem_cons.2 ⟨.truth true, List.forall_mem_singleton.2 .null⟩)
  have hlist : Json.IsJson (.list [.whole 7, .object [("é", .truth true), ("x", .null)]]) :=
    .list (List.forall_mem_cons.2 ⟨.whole 7, List.forall_mem_singleton.2 hinner⟩)
  exact .object (List.forall_mem_cons.2 ⟨hlist, List.forall_mem_singleton.2 (.text "|")⟩)

theorem hashes_ignore_order_shuffled :
    Checksum.ofDatum shuffled = Checksum.ofDatum arranged ∧
      (∃ s, Checksum.ofDatum shuffled = .ok s) ∧
      ofInputs ["on", "value"] [("value", shuffled), ("on", .null)] =
        ofInputs ["on", "value"] [("value", arranged)] ∧
      ∃ s, ofInputs ["on", "value"] [("value", shuffled), ("on", .null)] = .ok s := by
  have hagree : Agree [("value", shuffled), ("on", .null)] [("value", arranged)] := by
    refine ⟨by decide, by decide, ?_⟩
    exact @Reordered.object [("value", shuffled, arranged)] _ (by decide)
      (List.forall_mem_singleton.2 reordered_shuffled) (.refl _)
  obtain ⟨hsum, hexists, hprint, htext, hdigest⟩ :=
    @hashes_ignore_order shuffled arranged _ _ ["on", "value"] reordered_shuffled isJson_shuffled
      hagree (List.forall_mem_cons.2 ⟨isJson_shuffled, List.forall_mem_singleton.2 .null⟩)
  refine ⟨hsum, hexists.2 (by cbv), hprint, hdigest.2 ?_⟩
  refine ⟨"on=null|value=\x7ba:|,b:[7,\x7bx:null,é:True\x7d]\x7d", by cbv, Text.isPlain_ofString _⟩

end Fingerprint

end Appraisal
