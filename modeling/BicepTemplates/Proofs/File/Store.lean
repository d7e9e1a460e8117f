import BicepTemplates.File.Store
import BicepTemplates.Proofs.Success

/-! # Files after a write

A path can be written if it leads to a name in a directory, and no directory has that name. A write
adds no directory and removes none, so all paths lead where they led before. At the place written
there is a file with the new contents, and everything else is as it was.
-/

namespace BicepTemplates

namespace FileStore

variable {s t : FileStore} {p q standing place : Place} {name : String} {path : FilePath}
  {contents : ByteArray}

section Directories

theorem entry?_eq_directory_iff :
    s.entry? p = some .directory ↔ s.contents? p = none ∧ s.isDirectory p = true := by
  unfold entry?
  cases s.contents? p with
  | some held => simp
  | none => simp

theorem requireDirectory_eq_ok_iff {u : Unit} :
    s.requireDirectory p = .ok u ↔ s.entry? p = some .directory := by
  unfold requireDirectory
  split
  · next h => simp [h]
  · next h => simp [h]
  · next h => simp [h]

theorem isDirectory_iff : s.isDirectory p = true ↔ p = [] ∨
    ∃ d, (d ∈ s.directories ∨ ∃ file ∈ s.files, file.1.dropLast = d) ∧ p <+: d := by
  simp [isDirectory, List.any_append, or_and_right, exists_or]

theorem isDirectory_of_prefix (h : q <+: p) (hp : s.isDirectory p = true) :
    s.isDirectory q = true := by
  rw [isDirectory_iff] at hp ⊢
  rcases hp with rfl | ⟨d, hd, hpd⟩
  · exact .inl (List.prefix_nil.mp h)
  · exact .inr ⟨d, hd, h.trans hpd⟩

/-- The only directories that a file needs are those on the way to it. -/
theorem isDirectory_put (hp : s.isDirectory p.dropLast = true) (q : Place) :
    (s.put p contents).isDirectory q = s.isDirectory q := by
  rw [Bool.eq_iff_iff]
  constructor
  · intro h
    rcases isDirectory_iff.mp h with rfl | ⟨d, hd | ⟨file, hfile, rfl⟩, hq⟩
    · rfl
    · exact isDirectory_iff.mpr (.inr ⟨d, .inl hd, hq⟩)
    · rcases List.mem_cons.mp hfile with rfl | hfile
      · exact isDirectory_of_prefix hq hp
      · exact isDirectory_iff.mpr (.inr ⟨_, .inr ⟨file, List.mem_of_mem_filter hfile, rfl⟩, hq⟩)
  · intro h
    rcases isDirectory_iff.mp h with rfl | ⟨d, hd | ⟨file, hfile, rfl⟩, hq⟩
    · rfl
    · exact isDirectory_iff.mpr (.inr ⟨d, .inl hd, hq⟩)
    · by_cases hplace : file.1 = p
      · -- The file that is replaced was in the same directory.
        rw [hplace] at hq
        exact isDirectory_iff.mpr (.inr ⟨_, .inr ⟨_, List.mem_cons_self, rfl⟩, hq⟩)
      · have hkept : file ∈ s.files.filter fun file => file.1 ≠ p :=
          List.mem_filter.mpr ⟨hfile, decide_eq_true hplace⟩
        exact isDirectory_iff.mpr (.inr ⟨_, .inr ⟨file, List.mem_cons_of_mem _ hkept, rfl⟩, hq⟩)

theorem entry?_put_self : entry? (s.put p contents) p = some (.file contents) := by
  unfold entry?
  rw [contents?_put_self]

theorem entry?_put_of_ne (hp : s.isDirectory p.dropLast = true) (hq : q ≠ p) :
    entry? (s.put p contents) q = s.entry? q := by
  unfold entry?
  rw [contents?_put_of_ne hq, isDirectory_put hp]

end Directories

/-- The path names a file at the place: its directory is there, and no directory has its name. -/
structure Writable (s : FileStore) (standing : Place) (path : FilePath) (place : Place) : Prop where
  not_slash : path.endsInSlash = false
  exists_name : ∃ front name parent, path.names = front ++ [name] ∧
    FilePath.isDot name = false ∧ front.foldlM s.step (start standing path) = .ok parent ∧
    s.entry? parent = some .directory ∧ inside parent name = .ok place
  not_directory : s.entry? place ≠ some .directory

theorem target_eq_ok_iff : s.target standing path = .ok place ↔
    s.Writable standing path place := by
  constructor
  · intro h
    obtain ⟨parent, hparent, h⟩ := bind_eq_ok_iff.mp h
    obtain ⟨_, hdirectory, h⟩ := bind_eq_ok_iff.mp h
    split at h
    · cases h
    · next name hlast =>
      obtain ⟨front, hnames⟩ := List.getLast?_eq_some_iff.mp hlast
      rw [hnames, List.dropLast_concat] at hparent
      split at h
      · cases h
      · next hname =>
        obtain ⟨hslash, hdot⟩ := Bool.or_eq_false_iff.mp (eq_false_of_ne_true hname)
        obtain ⟨place', hinside, h⟩ := bind_eq_ok_iff.mp h
        split at h
        · cases h
        · next hfree =>
          obtain rfl := Except.ok.inj h
          exact ⟨hslash, ⟨front, name, parent, hnames, hdot, hparent,
            requireDirectory_eq_ok_iff.mp hdirectory, hinside⟩, hfree⟩
  · rintro ⟨hslash, ⟨front, name, parent, hnames, hdot, hparent, hdirectory, hinside⟩, hfree⟩
    refine bind_eq_ok_iff.mpr ⟨parent, by rwa [hnames, List.dropLast_concat], ?_⟩
    refine bind_eq_ok_iff.mpr ⟨(), requireDirectory_eq_ok_iff.mpr hdirectory, ?_⟩
    rw [hnames, List.getLast?_concat]
    show (if (path.endsInSlash || FilePath.isDot name) = true then _ else _) = _
    rw [hslash, hdot, if_neg (by decide)]
    refine bind_eq_ok_iff.mpr ⟨place, hinside, ?_⟩
    split
    · next hplace => exact absurd hplace hfree
    · rfl

theorem inside_eq_ok_iff : inside p name = .ok place ↔
    name.utf8ByteSize ≤ 255 ∧ place = p ++ [name] := by
  unfold inside
  split
  · next h => simp [h, eq_comm]
  · next h => simp [h]

theorem step_eq_inside (hp : s.entry? p = some .directory) (hname : FilePath.isDot name = false) :
    s.step p name = inside p name := by
  obtain ⟨hdot, hdots⟩ := Bool.or_eq_false_iff.mp hname
  have hdirectory : s.requireDirectory p = .ok () := requireDirectory_eq_ok_iff.mpr hp
  rw [step, hdirectory]
  show (if name = "." then _ else if name = ".." then _ else inside p name) = _
  rw [if_neg (ne_of_beq_false hdot), if_neg (ne_of_beq_false hdots)]

namespace Writable

variable (h : s.Writable standing path place)

include h

theorem isDirectory_dropLast : s.isDirectory place.dropLast = true := by
  obtain ⟨front, name, parent, -, -, -, hparent, hinside⟩ := h.exists_name
  obtain ⟨-, rfl⟩ := inside_eq_ok_iff.mp hinside
  rw [List.dropLast_concat]
  exact (entry?_eq_directory_iff.mp hparent).2

theorem entry?_put (hq : q ≠ place) : entry? (s.put place contents) q = s.entry? q :=
  entry?_put_of_ne h.isDirectory_dropLast hq

theorem entry?_put_directory (hq : s.entry? q = some .directory) :
    entry? (s.put place contents) q = some .directory := by
  have hne : q ≠ place := by
    rintro rfl
    exact h.not_directory hq
  rw [h.entry?_put hne, hq]

theorem step_put (hq : s.step q name = .ok p) : (s.put place contents).step q name = .ok p := by
  obtain ⟨u, hdirectory, hrest⟩ := bind_eq_ok_iff.mp hq
  have hdirectory := requireDirectory_eq_ok_iff.mp hdirectory
  exact bind_eq_ok_iff.mpr
    ⟨u, requireDirectory_eq_ok_iff.mpr (h.entry?_put_directory hdirectory), hrest⟩

theorem foldlM_step_put {names : List String} (hp : names.foldlM s.step p = .ok q) :
    names.foldlM (s.put place contents).step p = .ok q := by
  -- each name is looked up in a directory, so the file does not stand in the way
  induction names generalizing p with
  | nil => exact hp
  | cons name names ih =>
    rw [List.foldlM_cons] at hp ⊢
    obtain ⟨next, hnext, hp⟩ := bind_eq_ok_iff.mp hp
    exact bind_eq_ok_iff.mpr ⟨next, h.step_put hnext, ih hp⟩

theorem read_put : (s.put place contents).read standing path = .ok contents := by
  obtain ⟨front, name, parent, hnames, hdot, hfront, hparent, hinside⟩ := h.exists_name
  have hsteps : path.steps = front ++ [name] := by
    rw [FilePath.steps, h.not_slash, hnames]
    rfl
  have hplace : path.steps.foldlM (s.put place contents).step (start standing path) =
      .ok place := by
    have hlast : [name].foldlM (s.put place contents).step parent = .ok place := by
      rw [List.foldlM_cons, step_eq_inside (h.entry?_put_directory hparent) hdot, hinside]
      rfl
    rw [hsteps, List.foldlM_append]
    exact bind_eq_ok_iff.mpr ⟨parent, h.foldlM_step_put hfront, hlast⟩
  have hfollow : (s.put place contents).follow standing path =
      .ok (place, .file contents) := by
    refine bind_eq_ok_iff.mpr ⟨place, hplace, ?_⟩
    rw [entry?_put_self]
    rfl
  exact bind_eq_ok_iff.mpr ⟨_, hfollow, rfl⟩

end Writable

theorem write_eq_ok_iff : s.write standing path contents = .ok t ↔
    ∃ place, s.target standing path = .ok place ∧ t = s.put place contents := by
  rw [write, bind_eq_ok_iff]
  simp only [pure, Except.pure, Except.ok.injEq, eq_comm]

end FileStore

end BicepTemplates
