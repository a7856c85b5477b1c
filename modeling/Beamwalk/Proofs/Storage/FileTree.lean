/-
Module: Beamwalk.Proofs.Storage.FileTree
Purpose: A file that was written is found and read again by the same path.
Main exports: FileEntry.place?, FileTree.Leads, FileTree.resolve_put, FileTree.write_ok_iff,
  FileTree.resolve_write
-/
import Mathlib.Data.List.Basic
import Beamwalk.Storage.FileTree

namespace Beamwalk

/-- Where a text that is written to the entry goes. -/
def FileEntry.place? : FileEntry → Option (List String)
  | .file place _ | .vacant place => some place
  | .directory => none

namespace FileTree

variable {t : FileTree} {here place other : List String} {text path : String} {entry : FileEntry}

/-! ### A tree with one more text -/

theorem text?_put_self (t : FileTree) (place : List String) (text : String) :
    (t.put place text).text? place = some text := by
  simp [text?, put]

/-- The texts of other files are not touched. -/
theorem text?_put_of_ne (h : other ≠ place) : (t.put place text).text? other = t.text? other := by
  have hfilter : ∀ files : List (List String × String),
      (files.filter (·.1 ≠ place)).lookup other = files.lookup other := by
    intro files
    induction files with
    | nil => rfl
    | cons file files ih =>
        by_cases hfile : file.1 = place
        · have hne : (other == file.1) = false := by simp [hfile, h]
          rw [List.filter_cons_of_neg (by simp [hfile]), ih, List.lookup_cons, hne]
        · rw [List.filter_cons_of_pos (by simp [hfile]), List.lookup_cons, List.lookup_cons, ih]
  have hne : (other == place) = false := by simp [h]
  simp only [text?, put, List.lookup_cons, hne, hfilter]

/-- A directory is still one with another file in the tree. -/
theorem isDirectory_put (h : t.isDirectory other = true) :
    (t.put place text).isDirectory other = true := by
  rw [isDirectory, Bool.or_eq_true, List.any_eq_true] at h ⊢
  obtain hworking | ⟨file, hfile, hbelow⟩ := h
  · exact .inl hworking
  · right
    by_cases hplace : file.1 = place
    · exact ⟨(place, text), List.mem_cons_self, by rwa [hplace] at hbelow⟩
    · exact ⟨file, List.mem_cons_of_mem _ (List.mem_filter.mpr ⟨hfile, by simp [hplace]⟩), hbelow⟩

/-! ### Following a path once more -/

/-- A name that leads down from a directory. -/
structure Descends (name : String) : Prop where
  stays : ¬(name = "" ∨ name = ".")
  rises : name ≠ ".."
  fits : ¬maxNameBytes < name.utf8ByteSize

/-- The names lead from a directory to the entry, through directories only. -/
inductive Leads (t : FileTree) : (here names : List String) → FileEntry → Prop where
  | here {here : List String} : Leads t here [] .directory
  | stay {here rest : List String} {name : String} {entry : FileEntry}
      (hname : name = "" ∨ name = ".") (onward : Leads t here rest entry) :
      Leads t here (name :: rest) entry
  | rise {here rest : List String} {entry : FileEntry} (onward : Leads t here.dropLast rest entry) :
      Leads t here (".." :: rest) entry
  | descend {here rest : List String} {name : String} {entry : FileEntry} (hname : Descends name)
      (untaken : t.text? (here ++ [name]) = none) (directory : t.isDirectory (here ++ [name]) = true)
      (onward : Leads t (here ++ [name]) rest entry) : Leads t here (name :: rest) entry
  | file {here : List String} {name text : String} (hname : Descends name)
      (found : t.text? (here ++ [name]) = some text) :
      Leads t here [name] (.file (here ++ [name]) text)
  | vacant {here : List String} {name : String} (hname : Descends name)
      (untaken : t.text? (here ++ [name]) = none)
      (undirected : t.isDirectory (here ++ [name]) = false) :
      Leads t here [name] (.vacant (here ++ [name]))

theorem leads_of_follow {names : List String} (h : t.follow here names = .ok entry) :
    Leads t here names entry := by
  induction names generalizing here with
  | nil =>
      cases h
      exact .here
  | cons name rest ih =>
      simp only [follow] at h
      split at h
      · next hstays => exact .stay hstays (ih h)
      next hstays =>
      split at h
      · next hrises =>
          subst hrises
          exact .rise (ih h)
      next hrises =>
      split at h
      · cases h
      next hfits =>
      have hname : Descends name := ⟨hstays, hrises, hfits⟩
      split at h
      · next found =>
          split at h
          · next hlast =>
              cases h
              rw [List.isEmpty_iff.mp hlast]
              exact .file hname found
          · cases h
      next untaken =>
      split at h
      · next directory => exact .descend hname untaken directory (ih h)
      next undirected =>
      split at h
      · next hlast =>
          cases h
          rw [List.isEmpty_iff.mp hlast]
          exact .vacant hname untaken (Bool.eq_false_iff.mpr undirected)
      · cases h

theorem Leads.follow {names : List String} (h : Leads t here names entry) :
    t.follow here names = .ok entry := by
  induction h with
  | here => rfl
  | stay hname _ ih => rw [FileTree.follow, if_pos hname, ih]
  | rise _ ih => simpa [FileTree.follow] using ih
  | descend hname untaken directory _ ih =>
      simp only [FileTree.follow, hname.stays, hname.rises, hname.fits, if_false, untaken,
        directory, if_true, ih]
  | file hname found =>
      simp only [FileTree.follow, hname.stays, hname.rises, hname.fits, if_false, found,
        List.isEmpty_nil, if_true]
  | vacant hname untaken undirected =>
      simp only [FileTree.follow, hname.stays, hname.rises, hname.fits, if_false, untaken,
        undirected, Bool.false_eq_true, List.isEmpty_nil, if_true]

/-- A place that takes a text is no directory that names lead through. -/
theorem Leads.not_directory {names : List String} (h : Leads t here names entry)
    (hplace : entry.place? = some place) :
    ¬(t.text? place = none ∧ t.isDirectory place = true) := by
  induction h with
  | here => cases hplace
  | stay _ _ ih | rise _ ih | descend _ _ _ _ ih => exact ih hplace
  | file _ found =>
      cases hplace
      rintro ⟨untaken, -⟩
      rw [found] at untaken
      cases untaken
  | vacant _ _ undirected =>
      cases hplace
      rintro ⟨-, directory⟩
      rw [undirected] at directory
      cases directory

/-- The names that led to a place lead to the text that was put there. -/
theorem Leads.put {names : List String} (h : Leads t here names entry)
    (hplace : entry.place? = some place) :
    Leads (t.put place text) here names (.file place text) := by
  have hend := h.not_directory hplace
  induction h with
  | here => cases hplace
  | stay hname _ ih => exact .stay hname (ih hplace)
  | rise _ ih => exact .rise (ih hplace)
  | descend hname untaken directory _ ih =>
      have hother : _ ≠ place := fun h => hend (h ▸ ⟨untaken, directory⟩)
      exact .descend hname ((text?_put_of_ne hother).trans untaken) (isDirectory_put directory)
        (ih hplace)
  | file hname _ | vacant hname _ _ =>
      cases hplace
      exact .file hname (text?_put_self ..)

theorem follow_put {names : List String} (h : t.follow here names = .ok entry)
    (hplace : entry.place? = some place) :
    (t.put place text).follow here names = .ok (.file place text) :=
  ((leads_of_follow h).put hplace).follow

/-- A path that led to a place leads to the text that was put there. -/
theorem resolve_put (h : t.resolve path = .ok entry) (hplace : entry.place? = some place) :
    (t.put place text).resolve path = .ok (.file place text) := by
  unfold resolve at h ⊢
  split at h
  · cases h
  next hnul =>
  rw [if_neg hnul]
  split at h
  · cases h
  next hlong =>
  rw [if_neg hlong]
  split at h
  · cases h
  · exact follow_put h hplace
  · exact follow_put h hplace

/-! ### Writing and reading -/

/-- A text can be written to a path that leads to a file or to where one could be made. -/
theorem write_ok_iff {t' : FileTree} :
    t.write path text = .ok t' ↔
      ∃ entry place, t.resolve path = .ok entry ∧ entry.place? = some place ∧
        t' = t.put place text := by
  unfold write
  cases h : t.resolve path with
  | error e => simp
  | ok entry => cases entry <;> simp [FileEntry.place?, eq_comm]

/-- What was written to a path is what the path leads to. -/
theorem resolve_write {t' : FileTree} (h : t.write path text = .ok t') :
    ∃ place, t'.resolve path = .ok (.file place text) := by
  obtain ⟨entry, place, hresolve, hplace, rfl⟩ := write_ok_iff.mp h
  exact ⟨place, resolve_put hresolve hplace⟩

end FileTree

end Beamwalk
