import CallCoupling.Workspace
import Mathlib

/-!
# Reading what was written

A write puts bytes at the place its path leads to, and that place is no directory. The names on the way to
any place are directories. So no write stands in the way of a path that led somewhere before it
(`locate_write`), a file that was written can be read (`read_write`), and what could be read before still can
(`Readable.write`), though perhaps as other bytes.

`Workspace.writeAll` is several writes in a row, and `readable_writeAll` the conclusion about all of them.
-/

set_option autoImplicit false

namespace CallCoupling

/-! ## 1. Paths that end in a name -/

theorem Text.splitOn_ne_nil (sep : Char) (s : List Char) : Text.splitOn sep s ≠ [] := by
  cases s with
  | nil => simp [Text.splitOn]
  | cons c cs =>
    rw [Text.splitOn]
    split
    · simp
    · split <;> simp

/-- The last piece is empty only behind a separator. -/
theorem Text.getLast_of_splitOn {sep : Char} {s : List Char}
    (h : (Text.splitOn sep s).getLast? = some []) : s = [] ∨ s.getLast? = some sep := by
  induction s with
  | nil => exact .inl rfl
  | cons c cs ih =>
    right
    rw [Text.splitOn] at h
    split at h
    · next hc =>
      rw [List.getLast?_cons, Option.some.injEq] at h
      cases cs with
      | nil => simp [hc]
      | cons d ds =>
        obtain hnil | hlast := ih (by
          rw [List.getLast?_eq_some_getLast (Text.splitOn_ne_nil sep _)] at h ⊢
          simpa using h)
        · cases hnil
        · simpa [List.getLast?_cons_cons] using hlast
    · split at h
      · next hnil => exact absurd hnil (Text.splitOn_ne_nil sep cs)
      · next piece rest hsplit =>
        cases rest with
        | nil => simp at h
        | cons next rest =>
          rw [List.getLast?_cons_cons] at h
          obtain hnil | hlast := ih (by rw [hsplit, List.getLast?_cons_cons]; exact h)
          · simp [hnil, Text.splitOn] at hsplit
          · cases cs with
            | nil => cases hlast
            | cons d ds => simpa [List.getLast?_cons_cons] using hlast

theorem Text.endsWith_slash {path : String} (h : path.toList.getLast? = some '/') :
    Text.endsWith path "/" = true := by
  rw [List.getLast?_eq_head?_reverse] at h
  unfold Text.endsWith
  cases hr : path.toList.reverse with
  | nil => simp [hr] at h
  | cons c cs =>
    rw [hr, List.head?_cons, Option.some.injEq] at h
    simp [h, Text.dropStart?]

/-- A path that does not end in a slash ends in a name. -/
theorem Path.names_trimmed {path : String} (hpath : path ≠ "") (hslash : Text.endsWith path "/" = false) :
    ((Path.names path).reverse.dropWhile (· = "")).reverse = Path.names path := by
  have hlast : ∀ name ∈ (Path.names path).reverse.head?, ¬ decide (name = "") = true := by
    intro name hname
    rw [← List.getLast?_eq_head?_reverse, Path.names, List.getLast?_map] at hname
    obtain ⟨piece, hpiece, rfl⟩ := Option.map_eq_some_iff.1 hname
    rw [decide_eq_true_iff, String.ofList_eq_empty_iff]
    rintro rfl
    obtain hnil | hsep := Text.getLast_of_splitOn hpiece
    · exact hpath (String.toList_eq_nil_iff.1 hnil)
    · rw [Text.endsWith_slash hsep] at hslash
      cases hslash
  cases hr : (Path.names path).reverse with
  | nil => simpa using hr.symm
  | cons name rest =>
    rw [hr] at hlast
    rw [List.dropWhile_cons, if_neg (hlast name rfl), ← hr, List.reverse_reverse]

/-! ## 2. One write -/

namespace Workspace

theorem lookup_filter_ne {place p : List String} (hp : p ≠ place)
    (files : List (List String × List UInt8)) :
    (files.filter fun (q, _) => q ≠ place).lookup p = files.lookup p := by
  induction files with
  | nil => rfl
  | cons entry files ih =>
    obtain ⟨q, bytes⟩ := entry
    by_cases hq : q = place
    · have hpq : (p == q) = false := beq_eq_false_iff_ne.2 (hq ▸ hp)
      rw [List.filter_cons_of_neg (by simpa using hq), ih, List.lookup_cons, hpq]
    · rw [List.filter_cons_of_pos (by simpa using hq), List.lookup_cons, List.lookup_cons, ih]

theorem file?_put (w : Workspace) (place p : List String) (bytes : List UInt8) :
    (w.put place bytes).file? p = if p = place then some bytes else w.file? p := by
  unfold file? put
  rw [List.lookup_cons]
  by_cases hp : p = place
  · simp [hp]
  · rw [beq_eq_false_iff_ne.2 hp, if_neg hp]
    exact lookup_filter_ne hp w.files

@[simp] theorem hasDirectory_put (w : Workspace) (place : List String) (bytes : List UInt8)
    (p : List String) : (w.put place bytes).hasDirectory p = w.hasDirectory p := rfl

/-- **What is put at a place that is no directory stands in nobody's way.** -/
theorem follow_put {w : Workspace} {place : List String} (hplace : w.hasDirectory place = false)
    (bytes : List UInt8) {here there : List String} {names : List String}
    (h : w.follow here names = .ok there) : (w.put place bytes).follow here names = .ok there := by
  induction names generalizing here with
  | nil => exact h
  | cons name rest ih =>
    rw [follow] at h ⊢
    by_cases hfile : (w.file? here).isSome
    · rw [if_pos hfile] at h
      cases h
    · by_cases hdir : w.hasDirectory here
      · have hne : here ≠ place := by
          rintro rfl
          rw [hplace] at hdir
          cases hdir
        have hopen : ¬ (!w.hasDirectory here) = true := by simp [hdir]
        rw [file?_put, if_neg hne, if_neg hfile, hasDirectory_put, if_neg hopen]
        rw [if_neg hfile, if_neg hopen] at h
        -- The name is passed over, leads up, is too long, or leads down.
        split_ifs at h ⊢
        · exact ih h
        · exact ih h
        · exact ih h
      · rw [if_neg hfile, if_pos (by simpa using hdir)] at h
        cases h

theorem locate_put {w : Workspace} {place : List String} (hplace : w.hasDirectory place = false)
    (bytes : List UInt8) {path : String} {there : List String} (h : w.locate path = .ok there) :
    (w.put place bytes).locate path = .ok there := by
  unfold locate locateNames at h ⊢
  split_ifs at h ⊢
  all_goals exact follow_put hplace bytes h

/-- **A write that succeeds** puts its bytes at the place of its path, which is no directory. -/
theorem write_eq_ok {w w' : Workspace} {path : String} {bytes : List UInt8}
    (h : w.write path bytes = .ok w') :
    ∃ place, w.locate path = .ok place ∧ w.hasDirectory place = false ∧ w' = w.put place bytes := by
  simp only [write] at h
  split at h
  · cases h
  · next place hplace =>
    split at h
    · cases h
    · next hopen =>
      rw [Bool.or_eq_true, not_or, Bool.not_eq_true, Bool.not_eq_true] at hopen
      split at h
      · cases h
      · refine ⟨place, ?_, hopen.1, (Except.ok.inj h).symm⟩
        have hpath : path ≠ "" := by
          rintro rfl
          cases hplace
        rw [Path.names_trimmed hpath hopen.2] at hplace
        exact hplace

theorem read_eq_ok_iff {w : Workspace} {path : String} {bytes : List UInt8} :
    w.read path = .ok bytes ↔ ∃ place, w.locate path = .ok place ∧ w.file? place = some bytes := by
  unfold read
  cases w.locate path with
  | error reason => simp
  | ok place =>
    cases hfile : w.file? place with
    | some b => simp [hfile]
    | none => by_cases hdir : w.hasDirectory place <;> simp [hfile, hdir]

/-- **What was written is read.** -/
theorem read_write {w w' : Workspace} {path : String} {bytes : List UInt8}
    (h : w.write path bytes = .ok w') : w'.read path = .ok bytes := by
  obtain ⟨place, hlocate, hplace, rfl⟩ := write_eq_ok h
  exact read_eq_ok_iff.2 ⟨place, locate_put hplace bytes hlocate, by simp [file?_put]⟩

/-- There is a file at the path. -/
def Readable (w : Workspace) (path : String) : Prop := ∃ bytes, w.read path = .ok bytes

theorem Readable.write {w w' : Workspace} {path other : String} {bytes : List UInt8}
    (hread : w.Readable path) (h : w.write other bytes = .ok w') : w'.Readable path := by
  obtain ⟨old, hold⟩ := hread
  obtain ⟨place, hlocate, hfile⟩ := read_eq_ok_iff.1 hold
  obtain ⟨target, -, htarget, rfl⟩ := write_eq_ok h
  have hlocate := locate_put htarget bytes hlocate
  by_cases hsame : place = target
  · exact ⟨bytes, read_eq_ok_iff.2 ⟨place, hlocate, by simp [file?_put, hsame]⟩⟩
  · exact ⟨old, read_eq_ok_iff.2 ⟨place, hlocate, by simpa [file?_put, hsame] using hfile⟩⟩

/-! ## 3. Several writes -/

/-- Write files one after the other. -/
def writeAll (w : Workspace) : List (String × List UInt8) → Except FileError Workspace
  | [] => .ok w
  | (path, bytes) :: rest => (w.write path bytes).bind fun w => w.writeAll rest

theorem writeAll_cons_eq_ok {w w' : Workspace} {path : String} {bytes : List UInt8}
    {rest : List (String × List UInt8)} :
    w.writeAll ((path, bytes) :: rest) = .ok w' ↔
      ∃ between, w.write path bytes = .ok between ∧ between.writeAll rest = .ok w' := by
  rw [writeAll]
  cases w.write path bytes <;> simp [Except.bind]

theorem Readable.writeAll {w w' : Workspace} {path : String} {files : List (String × List UInt8)}
    (hread : w.Readable path) (h : w.writeAll files = .ok w') : w'.Readable path := by
  induction files generalizing w with
  | nil => exact Except.ok.inj h ▸ hread
  | cons file files ih =>
    obtain ⟨between, hwrite, hrest⟩ := writeAll_cons_eq_ok.1 h
    exact ih (hread.write hwrite) hrest

/-- **After a row of writes there is a file at every path of the row.** -/
theorem readable_writeAll {w w' : Workspace} {files : List (String × List UInt8)}
    (h : w.writeAll files = .ok w') : ∀ file ∈ files, w'.Readable file.1 := by
  induction files generalizing w with
  | nil => simp
  | cons file files ih =>
    obtain ⟨path, bytes⟩ := file
    obtain ⟨between, hwrite, hrest⟩ := writeAll_cons_eq_ok.1 h
    intro other hother
    obtain rfl | hother := List.mem_cons.1 hother
    · exact Readable.writeAll ⟨bytes, read_write hwrite⟩ hrest
    · exact ih hrest other hother

end Workspace

end CallCoupling
