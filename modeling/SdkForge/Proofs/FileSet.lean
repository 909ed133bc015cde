import Mathlib.Data.List.Basic
import SdkForge.Disk

/-!
# Writing a set of files

The files of a set are written one after the other. Which of them are kept as they are depends on
what is there, which the files before them can have written. To say which files are visited, a disk
is made one that takes notes.

* `FileSet.pairwise_ordered` and `FileSet.filter_ordered` give the order of the files.
* `Disk.noting` notes each file that is visited, and what became of it.
  `Disk.fst_run_noting_writeAll` says that taking notes changes nothing about what is written.
* `Disk.Progress` is the invariant: what the notes, the log and the stored texts have to do with
  each other.
* `preview_shows_writing` puts this together.
-/

namespace SdkForge

/-! ## The order of the files -/

/-- The place of a category among those that are written. -/
def FileCategory.rank : FileCategory → Nat
  | config => 0
  | generated => 1
  | scaffold => 2

namespace FileSet

/-- The files come by category. -/
lemma pairwise_ordered (files : FileSet) :
    files.ordered.Pairwise fun f g => f.category.rank ≤ g.category.rank := by
  have hcategory : ∀ {category : FileCategory}, ∀ f ∈ files.filter (·.category = category),
      f.category = category :=
    fun f hf => of_decide_eq_true (List.mem_filter.1 hf).2
  have hranks : FileCategory.all.Pairwise fun a b => a.rank ≤ b.rank := by decide
  rw [ordered, List.pairwise_flatMap]
  constructor
  · intro category _
    apply List.pairwise_of_forall_mem_list
    intro f hf g hg
    exact Nat.le_of_eq (congrArg FileCategory.rank ((hcategory f hf).trans (hcategory g hg).symm))
  · apply hranks.imp
    intro a b hle f hf g hg
    rwa [hcategory f hf, hcategory g hg]

/-- The files of one category come as they were registered. -/
lemma filter_ordered (files : FileSet) (category : FileCategory) :
    files.ordered.filter (·.category = category) = files.filter (·.category = category) := by
  have hother : ∀ other : FileCategory, other ≠ category →
      (files.filter (·.category = other)).filter (·.category = category) = [] := by
    intro other hne
    rw [List.filter_filter, List.filter_eq_nil_iff]
    intro f _ hboth
    simp only [Bool.and_eq_true, decide_eq_true_eq] at hboth
    exact hne (hboth.2.symm.trans hboth.1)
  simp only [ordered, FileCategory.all, List.flatMap_cons, List.flatMap_nil, List.append_nil,
    List.filter_append]
  cases category <;> simp [hother]

lemma mem_of_mem_ordered {files : FileSet} {f : OutputFile} (h : f ∈ files.ordered) :
    f ∈ files := by
  obtain ⟨category, -, hf⟩ := List.mem_flatMap.1 h
  exact (List.mem_filter.1 hf).1

end FileSet

/-! ## Disks that take notes -/

/-- A file that was visited, and what became of it. -/
structure Visit where
  file : OutputFile
  result : WriteResult

/-- The path at which a file is stored below a directory. -/
def OutputFile.pathIn (directory : String) (f : OutputFile) : String := Path.join directory f.path

namespace Disk

section Notes

variable {m : Type → Type} [Monad m]

/-- The disk with notes of the files that are written to it: each is noted after the earlier ones,
with what became of it. -/
def noting (disk : Disk m) : Disk (StateT (List Visit) m) where
  read path := disk.read path
  locate path := disk.locate path
  write directory f := do
    let result ← disk.write directory f
    modify (· ++ [⟨f, result⟩])
    return result

variable [LawfulMonad m] (disk : Disk m) (directory : String)

lemma run_noting_write (f : OutputFile) (visits : List Visit) :
    (disk.noting.write directory f).run visits =
      (fun result => (result, visits ++ [⟨f, result⟩])) <$> disk.write directory f := by
  simp [noting]

/-- The first file is noted, and then the others. -/
lemma run_noting_writeEach_cons (log : WriteLog) (f : OutputFile) (rest : List OutputFile)
    (visits : List Visit) :
    (disk.noting.writeEach directory log (f :: rest)).run visits = do
      let result ← disk.write directory f
      match result with
      | .written =>
        (disk.noting.writeEach directory (log.addWritten f) rest).run (visits ++ [⟨f, .written⟩])
      | .kept =>
        (disk.noting.writeEach directory (log.addSkipped f) rest).run (visits ++ [⟨f, .kept⟩])
      | .failed => return (none, visits ++ [⟨f, .failed⟩]) := by
  rw [writeEach, StateT.run_bind, run_noting_write, bind_map_left]
  congr 1
  funext result
  cases result <;> rfl

lemma fst_run_noting_writeEach (log : WriteLog) (files : List OutputFile) (visits : List Visit) :
    Prod.fst <$> (disk.noting.writeEach directory log files).run visits =
      disk.writeEach directory log files := by
  induction files generalizing log visits with
  | nil => simp [writeEach]
  | cons f rest ih =>
    rw [run_noting_writeEach_cons, map_bind, writeEach]
    congr 1
    funext result
    cases result with
    | written => exact ih (log.addWritten f) _
    | kept => exact ih (log.addSkipped f) _
    | failed => rw [map_pure]

/-- Taking notes changes nothing about what is written. -/
theorem fst_run_noting_writeAll (files : FileSet) (visits : List Visit) :
    Prod.fst <$> (disk.noting.writeAll directory files).run visits =
      disk.writeAll directory files :=
  fst_run_noting_writeEach disk directory {} files.ordered visits

end Notes

/-! ## Writing where each path is a file of its own -/

variable {directory : String} {before now : OrderedMap String String} {visits : List Visit}
  {log : WriteLog} {f : OutputFile}

/-- The last of the visits that wrote a file to the path. -/
def lastWritten? (directory : String) (visits : List Visit) (path : String) : Option OutputFile :=
  ((visits.filter fun v => v.result = .written ∧ v.file.pathIn directory = path).getLast?).map
    (·.file)

/-- What is left alone when a file is visited: its rule says so, and it was there at the beginning
or a visit before wrote it. -/
def LeftAlone (directory : String) (before : OrderedMap String String) (visits : List Visit)
    (f : OutputFile) : Prop :=
  f.rules.overwrite = false ∧
    (before.contains (f.pathIn directory) ∨ ∃ v ∈ visits, v.result = .written ∧
      v.file.pathIn directory = f.pathIn directory)

/-- What has become of the texts and of the log after some visits. -/
structure Progress (directory : String) (before : OrderedMap String String) (visits : List Visit)
    (log : WriteLog) (now : OrderedMap String String) : Prop where
  /-- Each file was written or kept. -/
  result : ∀ v ∈ visits, v.result = .written ∨ v.result = .kept
  written : log.written = (visits.filter (·.result = .written)).map (·.file.path)
  skipped : log.skipped = (visits.filter (·.result = .kept)).map (·.file.path)
  /-- A file is kept exactly if its rule says so and it is there, from the beginning or from a visit
  before. -/
  kept : ∀ earlier v later, visits = earlier ++ v :: later →
    (v.result = .kept ↔ LeftAlone directory before earlier v.file)
  /-- A path has the contents of the file that was written there last, or what it had at the
  beginning. -/
  texts :
    ∀ path, now.get? path = ((lastWritten? directory visits path).map (·.contents)).or
    (before.get? path)

/-- What is said of every element and those before it can be said of the last one apart. -/
lemma forall_split_snoc {α : Type} {P : List α → α → Prop} {l : List α} {b : α} (hlast : P l b)
    (h : ∀ earlier a later, l = earlier ++ a :: later → P earlier a) :
    ∀ earlier a later, l ++ [b] = earlier ++ a :: later → P earlier a := by
  intro earlier a later heq
  rcases List.eq_nil_or_concat later with rfl | ⟨rest, last, rfl⟩
  · obtain ⟨rfl, hlast'⟩ := List.append_inj' heq rfl
    obtain rfl := List.singleton_inj.1 hlast'
    exact hlast
  · rw [List.concat_eq_append, ← List.cons_append, ← List.append_assoc] at heq
    exact h earlier a rest (List.append_inj' heq rfl).1

lemma lastWritten?_snoc (visits : List Visit) (v : Visit) (path : String) :
    lastWritten? directory (visits ++ [v]) path =
    if v.result = .written ∧ v.file.pathIn directory = path then some v.file
      else lastWritten? directory visits path := by
  unfold lastWritten?
  rw [List.filter_append]
  split
  · next h => simp [h]
  · next h => simp [h]

lemma isSome_lastWritten?_iff {path : String} : (lastWritten? directory visits path).isSome ↔
    ∃ v ∈ visits, v.result = .written ∧ v.file.pathIn directory = path := by
  rw [lastWritten?, Option.isSome_map, Option.isSome_iff_ne_none, Ne, List.getLast?_eq_none_iff,
    List.filter_eq_nil_iff]
  simp

lemma progress_nil (directory : String) (before : OrderedMap String String) :
    Progress directory before [] {} before where
  result := by simp
  written := rfl
  skipped := rfl
  kept := by simp
  texts path := by simp [lastWritten?]

namespace Progress

/-- A file is there if it was at the beginning, or has been written. -/
lemma contains_iff (h : Progress directory before visits log now) (path : String) :
    now.contains path = true ↔
    before.contains path = true ∨ ∃ v ∈ visits, v.result = .written ∧
      v.file.pathIn directory = path := by
  rw [OrderedMap.contains, h.texts, ← isSome_lastWritten?_iff, OrderedMap.contains,
    Option.isSome_or, Option.isSome_map, Bool.or_eq_true, or_comm]

/-- A path that no visit was about is as it was. -/
lemma get?_of_forall_ne (h : Progress directory before visits log now) {path : String}
    (hother : ∀ v ∈ visits, v.file.pathIn directory ≠ path) : now.get? path = before.get? path := by
  have hnone : lastWritten? directory visits path = none := by
    rw [← Option.not_isSome_iff_eq_none, isSome_lastWritten?_iff]
    rintro ⟨v, hv, -, hpath⟩
    exact hother v hv hpath
  rw [h.texts, hnone, Option.map_none, Option.none_or]

/-- Visiting a file that is left alone keeps it. -/
lemma snoc_kept (h : Progress directory before visits log now)
    (halone : LeftAlone directory before visits f) :
    Progress directory before (visits ++ [⟨f, .kept⟩]) (log.addSkipped f) now where
  result := List.forall_mem_append.2 ⟨h.result, by simp⟩
  written := by simp [WriteLog.addSkipped, h.written]
  skipped := by simp [WriteLog.addSkipped, h.skipped]
  kept := forall_split_snoc (iff_of_true rfl halone) h.kept
  texts path := by
    rw [lastWritten?_snoc, if_neg (by simp)]
    exact h.texts path

/-- Visiting another one writes it. -/
lemma snoc_written (h : Progress directory before visits log now)
    (halone : ¬LeftAlone directory before visits f) :
    Progress directory before (visits ++ [⟨f, .written⟩]) (log.addWritten f)
      (now.insert (f.pathIn directory) f.contents) where
  result := List.forall_mem_append.2 ⟨h.result, by simp⟩
  written := by simp [WriteLog.addWritten, h.written]
  skipped := by simp [WriteLog.addWritten, h.skipped]
  kept := forall_split_snoc (iff_of_false (by simp) halone) h.kept
  texts path := by
    rw [lastWritten?_snoc, OrderedMap.get?_insert, h.texts]
    by_cases hpath : f.pathIn directory = path
    · simp [hpath]
    · simp [hpath, Ne.symm hpath]

end Progress

/-- Writing a file where each path is a file of its own. -/
lemma run_flat_write (h : Progress directory before visits log now) (f : OutputFile) :
    (LeftAlone directory before visits f ∧ (flat.write directory f).run now = (.kept, now)) ∨
      (¬LeftAlone directory before visits f ∧
        (flat.write directory f).run now =
          (.written, now.insert (f.pathIn directory) f.contents)) := by
  have halone : LeftAlone directory before visits f ↔
      (!f.rules.overwrite && now.contains (f.pathIn directory)) = true := by
    rw [LeftAlone, ← h.contains_iff, Bool.and_eq_true, Bool.not_eq_true']
  by_cases hkept : LeftAlone directory before visits f
  · exact .inl ⟨hkept, if_pos (halone.1 hkept)⟩
  · exact .inr ⟨hkept, if_neg (mt halone.2 hkept)⟩

/-- The next file is visited, and the progress goes on. -/
lemma Progress.visit (h : Progress directory before visits log now) (f : OutputFile) :
    ∃ v log' now', v.file = f ∧ Progress directory before (visits ++ [v]) log' now' ∧
      ∀ rest, ((flat.noting.writeEach directory log (f :: rest)).run visits).run now =
        ((flat.noting.writeEach directory log' rest).run (visits ++ [v])).run now' := by
  rcases run_flat_write h f with ⟨halone, hwrite⟩ | ⟨halone, hwrite⟩
  · refine ⟨⟨f, .kept⟩, _, _, rfl, h.snoc_kept halone, fun rest => ?_⟩
    rw [run_noting_writeEach_cons, StateT.run_bind, hwrite]
    rfl
  · refine ⟨⟨f, .written⟩, _, _, rfl, h.snoc_written halone, fun rest => ?_⟩
    rw [run_noting_writeEach_cons, StateT.run_bind, hwrite]
    rfl

/-- Files that are written one after the other are all visited. -/
lemma Progress.writeEach (h : Progress directory before visits log now) (files : List OutputFile) :
    ∃ later log' now', ((flat.noting.writeEach directory log files).run visits).run now =
        ((some log', visits ++ later), now') ∧ later.map (·.file) = files ∧
      Progress directory before (visits ++ later) log' now' := by
  induction files generalizing visits log now with
  | nil =>
    refine ⟨[], log, now, ?_, rfl, by rwa [List.append_nil]⟩
    rw [List.append_nil]
    rfl
  | cons f rest ih =>
    obtain ⟨v, log', now', rfl, hvisit, hrun⟩ := h.visit f
    obtain ⟨later, log'', now'', hlater, rfl, hprogress⟩ := ih hvisit
    refine ⟨v :: later, log'', now'', ?_, rfl, by rwa [List.append_cons]⟩
    rw [hrun, hlater, ← List.append_cons]

end Disk

/-- What a preview shows is what writing does where each path is a file of its own. All files of the
preview are visited in its order, which is by category and within one as they were registered; each
is written or kept, and the log lists the paths of both. A file is kept exactly if its rule says so
and it was there, or a file before it wrote it. In the end a path has the contents that the preview
shows for the last file that was written there, or else what it had; the paths of no file have not
changed. -/
theorem preview_shows_writing (directory : String) (files : FileSet)
    (before : OrderedMap String String) :
    ∃ visits log after,
      (Disk.flat.writeAll directory files).run before = (some log, after) ∧
      ((Disk.flat.noting.writeAll directory files).run []).run before =
        ((some log, visits), after) ∧
      files.preview = visits.map (fun v => ⟨v.file.path, v.file.contents, v.file.category⟩) ∧
      (visits.map (·.file)).Pairwise (fun f g => f.category.rank ≤ g.category.rank) ∧
      (∀ category, (visits.map (·.file)).filter (·.category = category) =
        files.filter (·.category = category)) ∧
      Disk.Progress directory before visits log after ∧
      (∀ path, (∀ f ∈ files, f.pathIn directory ≠ path) → after.get? path = before.get? path) := by
  obtain ⟨visits, log, after, hrun, hfiles, hprogress⟩ :=
    (Disk.progress_nil directory before).writeEach files.ordered
  rw [List.nil_append] at hrun hprogress
  have hnoted :
      ((Disk.flat.noting.writeAll directory files).run []).run before =
        ((some log, visits), after) := hrun
  refine ⟨visits, log, after, ?_, hnoted, ?_, ?_, ?_, hprogress, ?_⟩
  · rw [← Disk.fst_run_noting_writeAll Disk.flat directory files [], StateT.run_map, hnoted]
    rfl
  · rw [FileSet.preview, ← hfiles, List.map_map]
    rfl
  · rw [hfiles]
    exact files.pairwise_ordered
  · intro category
    rw [hfiles]
    exact files.filter_ordered category
  · intro path hother
    apply hprogress.get?_of_forall_ne
    intro v hv
    have hmem : v.file ∈ files.ordered := hfiles ▸ List.mem_map_of_mem hv
    exact hother v.file (FileSet.mem_of_mem_ordered hmem)

/-- A scaffold comes after a file of its path, whichever was registered first, and is kept. -/
example :
    ((Disk.flat.writeAll "out" [⟨"lib.rs", "own", .scaffold, none⟩,
      ⟨"lib.rs", "made", .config, none⟩]).run .empty).1 =
        some { written := ["lib.rs"], skipped := ["lib.rs"] } := by
  decide +kernel

end SdkForge
