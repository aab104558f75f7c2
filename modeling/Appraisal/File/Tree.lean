import Appraisal.File.Error

/-!
# Files in directories

Files are known by the names on the way to them from the working directory; an absolute path starts
with a slash as its first name. The directories are those on the way to a file and those that are
listed. What has been written is read back, and writing changes no other file. The reason is that the
place of a new file has only directories on the way to it, so that a path leads where it led before.
The main statements: `read_write` and `read_write_of_ne`.
-/

namespace Appraisal

structure FileTree where
  directories : List (List Text) := []
  files : List (List Text × String) := []

namespace FileTree

def root : List Text := ["/"]

def isDirectory (t : FileTree) (place : List Text) : Bool :=
  place.isEmpty || place = root || t.directories.contains place ||
    t.files.any (fun f => place.length < f.1.length && place.isPrefixOf f.1)

def content? (t : FileTree) (place : List Text) : Option String :=
  (t.files.find? (fun f => f.1 = place)).map Prod.snd

/-- Follows names from a directory. The last name need not be there. -/
def follow (t : FileTree) (place : List Text) : List Text → Except PathError (List Text)
  | [] => .ok place
  | name :: names =>
      let next := place ++ [name]
      if name = ".." then follow t (if place = root then place else place.dropLast) names
      else if FilePath.longestName < FilePath.byteLength name then .error .nameTooLong
      else if names.isEmpty || t.isDirectory next then follow t next names
      else if (t.content? next).isSome then .error .notDirectory
      else .error .missing

def place (t : FileTree) (path : Text) : Except FileError (List Text) := do
  FilePath.check path
  if path = "" then throw (.system .missing path)
  let start := if path.startsWith "/" then root else []
  match t.follow start (FilePath.names path) with
  | .ok place => if t.isDirectory place then throw (.system .isDirectory path) else return place
  | .error why => throw (.system why path)

def read (t : FileTree) (path : Text) : Except FileError String := do
  match t.content? (← t.place path) with
  | some s => return s
  | none => throw (.system .missing path)

def set (t : FileTree) (place : List Text) (content : String) : FileTree :=
  { t with files := (place, content) :: t.files }

/-- Writes a text to a file. A text that has no bytes leaves the file empty. -/
def write (t : FileTree) (path content : Text) : FileTree × Except FileError Unit :=
  match t.place path with
  | .error e => (t, .error e)
  | .ok place =>
      match content.string? with
      | some s => (t.set place s, .ok ())
      | none => (t.set place "", .error (.refused (.unencodable content)))

theorem content?_set (t : FileTree) (place : List Text) (content : String) :
    (t.set place content).content? place = some content := by
  simp [content?, set]

theorem content?_set_of_ne (t : FileTree) {place other : List Text} (content : String)
    (h : place ≠ other) : (t.set place content).content? other = t.content? other := by
  simp [content?, set, h]

/-! ### What has been written -/

section

variable {t t' : FileTree} {place other : List Text} {names : List Text} {path : Text}
  {content : String}

/-- The directories on the way to a place are there. -/
def IsReached (t : FileTree) (place : List Text) : Prop :=
  ∀ way, way <+: place → way.length < place.length → t.isDirectory way = true

theorem isReached_of_follow (h : t.follow place names = .ok other) (hplace : t.IsReached place)
    (hdirectory : names ≠ [] → t.isDirectory place = true) : t.IsReached other := by
  induction names generalizing place with
  | nil =>
      obtain rfl := Except.ok.inj h
      exact hplace
  | cons name names ih =>
      have hdir := hdirectory (List.cons_ne_nil _ _)
      rw [follow] at h
      split at h
      · -- the directory above stands on the way to the one that is left
        split at h
        · exact ih h hplace (fun _ => hdir)
        · have habove (way : List Text) (hway : way <+: place.dropLast) :
              t.isDirectory way = true := by
            by_cases hlength : way.length < place.length
            · exact hplace way (hway.trans (List.dropLast_prefix _)) hlength
            · have hle := hway.length_le
              rw [List.length_dropLast] at hle
              obtain rfl : way = [] := List.length_eq_zero_iff.1 (by omega)
              rfl
          exact ih h (fun way hway _ => habove way hway) (fun _ => habove _ (List.prefix_refl _))
      · split at h
        · cases h
        · split at h
          · rename_i hnext
            refine ih h (fun way hway hlength => ?_) (fun hne => ?_)
            · rw [List.prefix_concat_iff] at hway
              rcases hway with rfl | hway
              · exact absurd hlength (Nat.lt_irrefl _)
              · by_cases hshort : way.length < place.length
                · exact hplace way hway hshort
                · rwa [hway.eq_of_length_le (by omega)]
            · simpa [hne] using hnext
          · split at h <;> cases h

theorem place_eq_ok_iff : t.place path = .ok place ↔
    FilePath.check path = .ok () ∧ path ≠ "" ∧
      t.follow (if path.startsWith "/" then root else []) (FilePath.names path) = .ok place ∧
      t.isDirectory place = false := by
  unfold FileTree.place
  cases FilePath.check path with
  | error e => simp [bind, Except.bind]
  | ok _ =>
      by_cases hempty : path = ""
      · simp [bind, Except.bind, hempty, throw, throwThe, MonadExceptOf.throw]
      · simp only [bind, Except.bind, hempty, if_false, pure, Except.pure]
        cases t.follow (if path.startsWith "/" then root else []) (FilePath.names path) with
        | error why => simp [throw, throwThe, MonadExceptOf.throw]
        | ok q =>
            by_cases hq : t.isDirectory q = true
            · simp only [hq, if_true, throw, throwThe, MonadExceptOf.throw, reduceCtorEq, false_iff,
                Except.ok.injEq]
              rintro ⟨-, -, rfl, hfile⟩
              exact Bool.false_ne_true (hfile.symm.trans hq)
            · simp only [hq, Bool.false_eq_true, if_false, Except.ok.injEq]
              refine ⟨?_, fun h => h.2.2.1⟩
              rintro rfl
              exact ⟨trivial, hempty, rfl, Bool.eq_false_iff.2 hq⟩

theorem isReached_of_place (h : t.place path = .ok place) : t.IsReached place := by
  obtain ⟨-, -, hfollow, -⟩ := place_eq_ok_iff.1 h
  refine isReached_of_follow hfollow (fun way hway hlength => ?_) (fun _ => ?_)
  · split at hlength
    · obtain rfl : way = [] := List.length_eq_zero_iff.1 (Nat.lt_one_iff.1 hlength)
      rfl
    · exact absurd hlength (Nat.not_lt_zero _)
  · split <;> rfl

theorem isDirectory_set (t : FileTree) (place other : List Text) (content : String) :
    (t.set place content).isDirectory other =
      (t.isDirectory other || (other.length < place.length && other.isPrefixOf place)) := by
  simp only [isDirectory, set, List.any_cons, Bool.or_assoc, Bool.or_comm, Bool.or_left_comm]

/-- A new file on the way to which the directories are there adds none. -/
theorem isDirectory_set_of_isReached (h : t.IsReached place) (content : String) :
    (t.set place content).isDirectory = t.isDirectory := by
  funext other
  rw [isDirectory_set, Bool.or_eq_left_iff_imp, Bool.and_eq_true, decide_eq_true_eq,
    List.isPrefixOf_iff_prefix]
  exact fun ⟨hlength, hway⟩ => h other hway hlength

/-- Where names lead depends on the directories only. -/
theorem follow_eq_ok_of_isDirectory (h : t'.isDirectory = t.isDirectory)
    (hfollow : t.follow place names = .ok other) : t'.follow place names = .ok other := by
  induction names generalizing place with
  | nil => exact hfollow
  | cons name names ih =>
      rw [follow] at hfollow ⊢
      rw [h]
      split at hfollow
      · rename_i hup
        rw [if_pos hup]
        exact ih hfollow
      · rename_i hup
        rw [if_neg hup]
        split at hfollow
        · cases hfollow
        · rename_i hlong
          rw [if_neg hlong]
          split at hfollow
          · rename_i hnext
            rw [if_pos hnext]
            exact ih hfollow
          · split at hfollow <;> cases hfollow

theorem place_set (hplace : t.place path = .ok place) {path' : Text}
    (h : t.place path' = .ok other) (content : String) :
    (t.set place content).place path' = .ok other := by
  have hsame := isDirectory_set_of_isReached (isReached_of_place hplace) content
  obtain ⟨hcheck, hempty, hfollow, hfile⟩ := place_eq_ok_iff.1 h
  exact place_eq_ok_iff.2
    ⟨hcheck, hempty, follow_eq_ok_of_isDirectory hsame hfollow, by rw [hsame, hfile]⟩

theorem read_eq_ok_iff : t.read path = .ok content ↔
    ∃ place, t.place path = .ok place ∧ t.content? place = some content := by
  unfold read
  cases t.place path with
  | error e => simp [bind, Except.bind]
  | ok place =>
      cases hcontent : t.content? place <;>
        simp [bind, Except.bind, pure, Except.pure, throw, throwThe, MonadExceptOf.throw, hcontent]

theorem read_write {text : Text} (h : t.write path text = (t', .ok ())) :
    ∃ s, text.string? = some s ∧ t'.read path = .ok s := by
  unfold write at h
  cases hplace : t.place path with
  | error e => simp [hplace] at h
  | ok place =>
      cases hs : text.string? with
      | none => simp [hplace, hs] at h
      | some s =>
          simp only [hplace, hs, Prod.mk.injEq, and_true] at h
          subst h
          exact ⟨s, rfl, read_eq_ok_iff.2
            ⟨place, place_set hplace hplace s, content?_set t place s⟩⟩

/-- Whatever becomes of the writing, a file at another place is read as before. -/
theorem read_write_of_ne {path' : Text} (text : Text) (h : t.read path' = .ok content)
    (hne : t.place path' ≠ t.place path) : (t.write path text).1.read path' = .ok content := by
  unfold write
  cases hplace : t.place path with
  | error e => exact h
  | ok place =>
      obtain ⟨other, hother, hcontent⟩ := read_eq_ok_iff.1 h
      have hset (s : String) : (t.set place s).read path' = .ok content := by
        refine read_eq_ok_iff.2 ⟨other, place_set hplace hother s, ?_⟩
        rw [content?_set_of_ne t s (fun heq => hne (by rw [hother, hplace, heq])), hcontent]
      cases text.string? with
      | none => exact hset ""
      | some s => exact hset s

end

end FileTree

end Appraisal
