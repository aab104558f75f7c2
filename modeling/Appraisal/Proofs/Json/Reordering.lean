import Appraisal.Digest.Fingerprint
import Appraisal.Proofs.Json.Document

/-!
# Reordered data

The entries of the mappings in data can be given in another order, at any depth and in many mappings
at once. The canonical text is the same. Data of the kinds of JSON have one unless a whole number in
them has too many digits.
-/

namespace Appraisal

open Outcome

namespace Datum

/-- The second datum is the first with the entries of its mappings in another order, at any depth. A
mapping has each key once. -/
inductive Reordered : Datum → Datum → Prop
  | refl (d : Datum) : Reordered d d
  | list {ps : List (Datum × Datum)} (items : ∀ p ∈ ps, Reordered p.1 p.2) :
      Reordered (.list (ps.map Prod.fst)) (.list (ps.map Prod.snd))
  | object {es : List (Text × Datum × Datum)} {gs : List (Text × Datum)}
      (distinct : (es.map Prod.fst).Nodup) (values : ∀ e ∈ es, Reordered e.2.1 e.2.2)
      (order : (es.map (fun e => (e.1, e.2.2))).Perm gs) :
      Reordered (.object (es.map (fun e => (e.1, e.2.1)))) (.object gs)

theorem object_inj {fs gs : List (Text × Datum)} : object fs = object gs ↔ fs = gs := by
  refine ⟨fun h => ?_, fun h => by rw [h]⟩
  refine List.map_injective_iff.2 (fun f g hfg => ?_) (Datum.map.inj h)
  obtain ⟨hkey, hvalue⟩ := Prod.mk.inj hfg
  exact Prod.ext (Datum.text.inj hkey) hvalue

/-- Sorting leaves out no entry: what is put together from the sorted entries one by one can be if each
entry has its part. -/
theorem exists_sortedEntries_iff {ε α β γ : Type} {fs : List (Text × α)}
    {convert : OrderError → ε} {part : Datum × α → Except ε β} {whole : List β → γ} :
    (∃ t, ((sortedEntries (fs.map (fun f => (text f.1, f.2)))).mapError convert >>= fun es =>
      es.mapM part >>= fun parts => (pure (whole parts) : Except ε γ)) = .ok t) ↔
        ∀ f ∈ fs, ∃ p, part (text f.1, f.2) = .ok p := by
  have hperm := (perm_sorted (fun a b => a.1.before b.1)
    (fs.map (fun f => (f.1, (text f.1, f.2))))).map Prod.snd
  rw [List.map_map] at hperm
  rw [sortedEntries_text]
  refine exists_bind_pure_iff.trans ?_
  simp only [exists_mapM_iff, hperm.mem_iff]
  exact List.forall_mem_map

/-- A mapping is reordered by changing its values and then the order of its entries. -/
theorem Reordered.exists_entries {fs gs : List (Text × Datum)}
    (h : (Datum.object fs).Reordered (Datum.object gs)) (hn : (fs.map Prod.fst).Nodup) :
    ∃ es : List (Text × Datum × Datum), (∀ e ∈ es, Reordered e.2.1 e.2.2) ∧
      es.map (fun e => (e.1, e.2.1)) = fs ∧ (es.map (fun e => (e.1, e.2.2))).Perm gs := by
  generalize hd : Datum.object fs = d at h
  generalize hd' : Datum.object gs = d' at h
  cases h with
  | refl =>
      obtain rfl : fs = gs := object_inj.1 (hd.trans hd'.symm)
      refine ⟨fs.map (fun f => (f.1, f.2, f.2)), fun e he => ?_, ?_, ?_⟩
      · obtain ⟨f, -, rfl⟩ := List.mem_map.1 he
        exact .refl f.2
      · rw [List.map_map]
        exact List.map_id fs
      · rw [List.map_map]
        exact .of_eq (List.map_id fs)
  | list items => cases hd
  | object distinct values order =>
      obtain rfl := object_inj.1 hd
      obtain rfl := object_inj.1 hd'
      exact ⟨_, values, rfl, order⟩

end Datum

namespace Json

variable {convert : Datum → Option Text} {depth : Nat} {d d' : Datum}

theorem writeItems_eq_mapM (style : Style) (depth : Nat) (ds : List Datum) :
    writeItems style depth ds = ds.mapM (write style depth) := by
  induction ds with
  | nil => rfl
  | cons d ds ih =>
      rw [writeItems, ih, List.mapM_cons]
      rfl

/-- The canonical text does not depend on the order of entries. -/
theorem write_of_reordered (h : d.Reordered d') :
    write (oneLine convert) depth d = write (oneLine convert) depth d' := by
  induction h generalizing depth with
  | refl d => rfl
  | @list ps items ih =>
      have hitems : (ps.map Prod.fst).mapM (write (oneLine convert) (depth + 1)) =
          (ps.map Prod.snd).mapM (write (oneLine convert) (depth + 1)) := by
        rw [List.mapM_map, List.mapM_map]
        exact mapM_congr (fun p hp => ih p hp)
      rw [write, write, writeItems_eq_mapM, writeItems_eq_mapM, hitems]
  | @object es gs distinct values order ih =>
      have hkeys : (es.map (fun e => (e.1, e.2.2))).map Prod.fst = es.map Prod.fst := by simp
      rw [← write_object_perm order (hkeys ▸ distinct), write_object, write_object]
      simp only [List.map_map, Function.comp_def]
      rw [List.map_congr_left (fun e he => by rw [ih e he])]

theorem exists_wholeText_iff {n : Int} :
    (∃ s, wholeText n = .ok s) ↔ (Datum.whole n).holdsOverlong = false := by
  rw [wholeText, Datum.holdsOverlong, decide_eq_false_iff_not]
  split_ifs with h <;> simp [h]

/-- A mapping is written if all its values are. -/
theorem exists_write_object_iff {fs : List (Text × Datum)} :
    (∃ s, write (oneLine convert) depth (.object fs) = .ok s) ↔
      ∀ f ∈ fs, ∃ s, write (oneLine convert) (depth + 1) f.2 = .ok s := by
  have hentry (key : Text) (value : Except WriteError String) :
      (∃ s, writtenEntry (.text key, value) = .ok s) ↔ ∃ s, value = .ok s := exists_bind_pure_iff
  rw [write_object]
  refine Datum.exists_sortedEntries_iff.trans ?_
  rw [List.forall_mem_map]
  simp only [hentry]

/-- Data of the kinds of JSON have a canonical text unless a whole number has too many digits. -/
theorem IsJson.exists_write_iff (h : IsJson d) :
    (∃ s, write (oneLine convert) depth d = .ok s) ↔ d.holdsOverlong = false := by
  induction h generalizing depth with
  | null => exact iff_of_true ⟨_, rfl⟩ rfl
  | truth b => exact iff_of_true ⟨_, rfl⟩ rfl
  | whole n => exact exists_wholeText_iff
  | double x => exact iff_of_true ⟨_, rfl⟩ rfl
  | text t => exact iff_of_true ⟨_, rfl⟩ rfl
  | @list ds items ih =>
      have hwrite : (∃ s, write (oneLine convert) depth (.list ds) = .ok s) ↔
          ∃ ss, ds.mapM (write (oneLine convert) (depth + 1)) = .ok ss := by
        rw [write, writeItems_eq_mapM]
        exact exists_map_iff
      rw [hwrite, exists_mapM_iff, Datum.holdsOverlong_list_iff]
      exact forall₂_congr (fun d hd => ih d hd)
  | @object fs values ih =>
      rw [Datum.holdsOverlong_object_iff, exists_write_object_iff]
      exact forall₂_congr (fun f hf => ih f hf)

end Json

end Appraisal
