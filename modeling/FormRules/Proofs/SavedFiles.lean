import FormRules.Command.Run
import FormRules.Proofs.Pieces

/-!
# Saved files

The folders on the way to a file are made first, up to the first file that stands in
the way.  Then the text is put at the place of the path, unless that is a folder.
Putting a file at a place takes no folder away, so the names of the path lead to the
same place afterwards, and the text is read there.
-/

namespace FormRules

/-! ## Places -/

namespace Workspace

variable {w : Workspace} {here place : Location} {text : String}

theorem isFolder_of_isAbove (above : here.isAbove = true) : w.isFolder here = true := by
  simp [isFolder, above]

theorem isAbove_start (path : String) : (Path.start path).isAbove = true := by
  unfold Path.start
  split <;> rfl

end Workspace

namespace Location

/-- The places that names lead through from a place, which is not one of them. -/
def along (here : Location) : List String → List Location
  | [] => []
  | name :: rest => here.step name :: along (here.step name) rest

def after (here : Location) (names : List String) : Location :=
  names.foldl step here

theorem along_append (here : Location) (front back : List String) :
    here.along (front ++ back) = here.along front ++ (here.after front).along back := by
  induction front generalizing here with
  | nil => rfl
  | cons name rest ih => simp [along, after, ih]

theorem along_of_isIdle {idle : List String} (h : ∀ name ∈ idle, Path.isIdle name = true)
    (here : Location) : ∀ place ∈ here.along idle, place = here := by
  induction idle with
  | nil => simp [along]
  | cons name rest ih =>
      obtain ⟨first, later⟩ := List.forall_mem_cons.1 h
      have stays : here.step name = here := by
        unfold Path.isIdle at first
        simp [step, first]
      simp only [along, stays, List.forall_mem_cons, true_and]
      exact ih later

theorem after_mem_along {here : Location} {names : List String} (ne : names ≠ []) :
    here.after names ∈ here.along names := by
  induction names generalizing here with
  | nil => exact absurd rfl ne
  | cons name rest ih =>
      cases rest with
      | nil => simp [after, along]
      | cons next rest => exact List.mem_cons_of_mem _ (ih (by simp))

theorem mem_along_append_idle {front idle : List String} (ne : front ≠ [])
    (h : ∀ name ∈ idle, Path.isIdle name = true) {here place : Location} :
    place ∈ here.along (front ++ idle) ↔ place ∈ here.along front := by
  rw [along_append, List.mem_append, or_iff_left_of_imp]
  intro hp
  rw [along_of_isIdle h _ place hp]
  exact after_mem_along ne

end Location

/-! ## Parents -/

namespace Path

variable {path name : String} {folder : List String}

theorem exists_settled (names : List String) :
    ∃ idle, (∀ name ∈ idle, isIdle name = true) ∧ names = idle ++ settled names := by
  induction names using settled.induct with
  | case1 => exact ⟨[], by simp, rfl⟩
  | case2 first => exact ⟨[], by simp, rfl⟩
  | case3 name next rest idle ih =>
      obtain ⟨front, all, split⟩ := ih
      refine ⟨name :: front, List.forall_mem_cons.2 ⟨idle, all⟩, ?_⟩
      rw [settled, if_pos idle, List.cons_append, ← split]
  | case4 name next rest other => exact ⟨[], by simp, by rw [settled, if_neg other]; rfl⟩

theorem settled_ne_nil {names : List String} (ne : names ≠ []) : settled names ≠ [] := by
  induction names using settled.induct with
  | case1 => exact absurd rfl ne
  | case2 first => simp [settled]
  | case3 name next rest idle ih =>
      rw [settled, if_pos idle]
      exact ih (List.cons_ne_nil _ _)
  | case4 name next rest other => simp [settled, other]

/-- The names of the parent are those in front of the last name, without idle ones at their end. -/
theorem exists_names_parent (names_eq : names path = folder ++ [name]) (ne : folder ≠ [])
    (real : isIdle name = false) :
    ∃ idle, (∀ n ∈ idle, isIdle n = true) ∧ folder = names (parent path) ++ idle := by
  obtain ⟨idle, all, split⟩ := exists_settled folder.reverse
  have filled : settled folder.reverse ≠ [] := settled_ne_nil (by simpa using ne)
  have front : folder = (settled folder.reverse).reverse ++ idle.reverse := by
    rw [← List.reverse_append, ← split, List.reverse_reverse]
  have slashless : ∀ n ∈ (settled folder.reverse).reverse, '/' ∉ n.toList := by
    intro n hn
    have among : n ∈ names path := by
      rw [names_eq, front]
      exact List.mem_append_left _ (List.mem_append_left _ hn)
    exact Text.not_mem_of_mem_piecesOf among
  have core : parent path = Text.joinTexts "/" (settled folder.reverse).reverse := by
    unfold parent
    rw [names_eq, List.reverse_append, List.reverse_singleton, List.singleton_append]
    cases behind : folder.reverse with
    | nil => exact absurd (List.reverse_eq_nil_iff.1 behind) ne
    | cons next rest => simp [settled, real]
  refine ⟨idle.reverse, by simpa using all, ?_⟩
  have pieces : names (parent path) = (settled folder.reverse).reverse := by
    rw [core]
    exact Text.piecesOf_joinTexts (by simpa using filled) slashless
  rw [pieces]
  exact front

theorem parent_of_single (names_eq : names path = [name]) : parent path = "" := by
  unfold parent
  rw [names_eq]
  rfl

/-- Without a parent the last name is in the place where the path starts. -/
theorem isIdle_of_parent_eq_empty (names_eq : names path = folder ++ [name])
    (real : isIdle name = false) (bare : parent path = "") : ∀ n ∈ folder, isIdle n = true := by
  by_cases ne : folder = []
  · simp [ne]
  · obtain ⟨idle, all, split⟩ := exists_names_parent names_eq ne real
    have blank : names "" = [""] := rfl
    rw [split, bare, blank]
    exact List.forall_mem_cons.2 ⟨rfl, all⟩

theorem start_parent (names_eq : names path = folder ++ [name]) (ne : folder ≠ [])
    (real : isIdle name = false) : start (parent path) = start path := by
  obtain ⟨idle, -, split⟩ := exists_names_parent names_eq ne real
  have filled : names (parent path) ≠ [] := (Text.splitsInto_piecesOf '/' _).ne_nil
  unfold start
  rw [names_eq, split, List.append_assoc, List.head?_append_of_ne_nil _ filled]

theorem mem_along_parent_iff (names_eq : names path = folder ++ [name]) (ne : folder ≠ [])
    (real : isIdle name = false) {here place : Location} :
    place ∈ here.along (names (parent path)) ↔ place ∈ here.along folder := by
  obtain ⟨idle, all, split⟩ := exists_names_parent names_eq ne real
  have filled : names (parent path) ≠ [] := (Text.splitsInto_piecesOf '/' _).ne_nil
  rw [split, Location.mem_along_append_idle filled all]

end Path

namespace Workspace

variable {w w' : Workspace} {here there place : Location} {text : String}

/-! ## Making folders -/

/-- A file at a place keeps a folder from being made there. -/
def Bars (w : Workspace) (place : Location) : Prop :=
  w.isFile place = true ∧ w.isFolder place = false

theorem isFolder_cons {next : Location} :
    ({ w with folders := next :: w.folders } : Workspace).isFolder place = true ↔
      place = next ∨ w.isFolder place = true := by
  simp [isFolder, or_assoc, or_left_comm]

theorem bars_cons_iff {next : Location} (free : w.isFile next = false) :
    ({ w with folders := next :: w.folders } : Workspace).Bars place ↔ w.Bars place := by
  have files : ({ w with folders := next :: w.folders } : Workspace).isFile place =
      w.isFile place := rfl
  unfold Bars
  rw [files, ← Bool.not_eq_true, ← Bool.not_eq_true, isFolder_cons, not_or]
  refine and_congr_right fun file => and_iff_right ?_
  rintro rfl
  simp [free] at file

/-- Nothing but a file in the way keeps folders from being made. -/
theorem makeAlong_eq_none_iff {begun : Bool} {names : List String} :
    (w.makeAlong begun here names).2 = none ↔ ∀ place ∈ here.along names, ¬ w.Bars place := by
  induction names generalizing begun w here with
  | nil => simp [makeAlong, Location.along]
  | cons name rest ih =>
      unfold makeAlong
      simp only [Location.along, List.forall_mem_cons]
      cases folder : w.isFolder (here.step name) with
      | true => rw [if_pos rfl, ih, and_iff_right (by simp [Bars, folder])]
      | false =>
          rw [if_neg Bool.false_ne_true]
          cases file : w.isFile (here.step name) with
          | true => simp [Bars, folder, file]
          | false =>
              rw [if_neg Bool.false_ne_true, ih, and_iff_right (by simp [Bars, file])]
              simp only [bars_cons_iff file]

theorem isFolder_makeAlong {begun : Bool} {names : List String}
    (done : (w.makeAlong begun here names).2 = none) :
    (w.makeAlong begun here names).1.isFolder place = true ↔
      w.isFolder place = true ∨ place ∈ here.along names := by
  induction names generalizing begun w here with
  | nil => simp [makeAlong, Location.along]
  | cons name rest ih =>
      unfold makeAlong at done ⊢
      simp only [Location.along, List.mem_cons] at done ⊢
      cases folder : w.isFolder (here.step name) with
      | true =>
          rw [if_pos folder] at done
          rw [if_pos rfl, ih done, ← or_assoc]
          refine or_congr_left (or_iff_left_of_imp ?_).symm
          rintro rfl
          exact folder
      | false =>
          rw [if_neg (by simp [folder])] at done
          rw [if_neg Bool.false_ne_true]
          cases file : w.isFile (here.step name) with
          | true => simp [file] at done
          | false =>
              rw [if_neg (by simp [file])] at done
              rw [if_neg Bool.false_ne_true, ih done, isFolder_cons]
              simp only [or_assoc, or_left_comm]

/-! ## Writing -/

theorem isFolder_after {names : List String} (start : w.isFolder here = true)
    (ways : ∀ place ∈ here.along names, w.isFolder place = true) :
    w.isFolder (here.after names) = true := by
  by_cases ne : names = []
  · rw [ne]
    exact start
  · exact ways _ (Location.after_mem_along ne)

theorem follow_of_folders {names : List String} (start : w.isFolder here = true)
    (ways : ∀ place ∈ here.along names, w.isFolder place = true) :
    w.follow here names = .ok (here.after names) := by
  induction names generalizing here with
  | nil => rfl
  | cons name rest ih =>
      obtain ⟨next, later⟩ := List.forall_mem_cons.1 ways
      rw [follow, if_pos start]
      exact ih next later

theorem follow_folder {path : String} {folder : List String}
    (ways : ∀ place ∈ (Path.start path).along folder, w.isFolder place = true) :
    w.follow (Path.start path) (folder ++ ["."]) = .ok ((Path.start path).after folder) := by
  have start : w.isFolder (Path.start path) = true := isFolder_of_isAbove (isAbove_start path)
  have stays : (Path.start path).after (folder ++ ["."]) = (Path.start path).after folder := by
    simp [Location.after, Location.step]
  rw [← stays]
  refine follow_of_folders start fun place hp => ?_
  rw [Location.along_append] at hp
  rcases List.mem_append.1 hp with hp | hp
  · exact ways place hp
  · rw [Location.along_of_isIdle (by simp [Path.isIdle]) _ place hp]
    exact isFolder_after start ways

theorem write_eq_writeIn {path name : String} {folder : List String}
    (names : Path.names path = folder ++ [name]) (real : Path.isIdle name = false) :
    w.write path text = w.writeIn (Path.start path) folder name text := by
  have given : path ≠ "" := by
    rintro rfl
    have blank : folder ++ [name] = [""] := names.symm
    have last := congrArg List.getLast? blank
    rw [List.getLast?_concat] at last
    obtain rfl : name = "" := Option.some.inj last
    cases real
  unfold write
  rw [if_neg given, names, List.reverse_append, List.reverse_singleton, List.singleton_append]
  split
  · rename_i none
    cases none
  · rename_i rest idle
    obtain rfl := (List.cons.inj idle).1
    cases real
  · rename_i name' folder' _ parts
    obtain ⟨rfl, rfl⟩ := List.cons.inj parts
    rw [List.reverse_reverse]

/-- If the places on the way are folders, a file is written unless it is a folder itself. -/
theorem write_of_folders {path name : String} {folder : List String}
    (names : Path.names path = folder ++ [name]) (real : Path.isIdle name = false)
    (ways : ∀ place ∈ (Path.start path).along folder, w.isFolder place = true) :
    let there := (Path.start path).after (Path.names path)
    w.write path text = if w.isFolder there then .error .isFolder else .ok (w.put there text) := by
  intro there
  have last : ((Path.start path).after folder).step name = there := by
    simp [there, names, Location.after]
  rw [write_eq_writeIn names real]
  unfold writeIn
  rw [follow_folder ways]
  simp [bind, Except.bind, last, real]
  rfl

/-! ## Reading back -/

theorem follow_append (xs ys : List String) :
    w.follow here (xs ++ ys) = (w.follow here xs).bind fun next => w.follow next ys := by
  induction xs generalizing here with
  | nil => rfl
  | cons name rest ih =>
      simp only [List.cons_append, follow, ih]
      split
      · rfl
      · split <;> rfl

theorem eq_after_of_follow {names : List String} (found : w.follow here names = .ok there) :
    there = here.after names := by
  induction names generalizing here with
  | nil => exact (Except.ok.inj found).symm
  | cons name rest ih =>
      unfold follow at found
      split at found
      · exact ih found
      · split at found <;> cases found

theorem put_of_writeIn {start : Location} {folder : List String} {name : String}
    (written : w.writeIn start folder name text = .ok w') :
    Path.isIdle name = false ∧ ∃ place, w' = w.put place text ∧
      w.follow start (folder ++ [name]) = .ok place := by
  unfold writeIn at written
  cases entered : w.follow start (folder ++ ["."]) with
  | error obstacle => simp [entered, bind, Except.bind] at written
  | ok here =>
      simp only [entered, bind, Except.bind] at written
      split at written
      · cases written
      · rename_i free
        cases written
        have real : Path.isIdle name = false := by
          cases h : Path.isIdle name <;> simp_all
        refine ⟨real, here.step name, rfl, ?_⟩
        -- The dot stays in the folder and shows that it is one.
        rw [follow_append] at entered ⊢
        cases reached : w.follow start folder with
        | error obstacle => simp [reached, Except.bind] at entered
        | ok last =>
            simp only [reached, Except.bind, follow] at entered ⊢
            split at entered
            · rename_i folder
              have stays : last.step "." = last := by simp [Location.step]
              rw [stays] at entered
              cases entered
              rw [if_pos folder]
            · split at entered <;> cases entered

/-- A write puts a file at the place of a path whose last name leads somewhere. -/
theorem put_of_write {path : String} (written : w.write path text = .ok w') :
    let there := (Path.start path).after (Path.names path)
    (∃ folder name, Path.names path = folder ++ [name] ∧ Path.isIdle name = false) ∧
      w.locate path = .ok there ∧ w' = w.put there text := by
  intro there
  unfold write at written
  split at written
  · cases written
  rename_i given
  split at written
  · cases written
  · split at written
    · cases written
    · exact absurd (put_of_writeIn written).1 (by simp [Path.isIdle])
  · rename_i name folder _ last
    obtain ⟨real, place, rfl, found⟩ := put_of_writeIn written
    have names : Path.names path = folder.reverse ++ [name] := by
      rw [← List.reverse_reverse (Path.names path), last, List.reverse_cons]
    rw [← names] at found
    obtain rfl : place = there := eq_after_of_follow found
    exact ⟨⟨folder.reverse, name, names, real⟩, by rw [locate, if_neg given, found], rfl⟩

end Workspace

namespace Command

open Workspace

variable {w : Workspace} {path text : String}

/-! ## Saving -/

/-- The folders on the way to a file are made unless a file is in the way, and then they are the
only new ones. -/
theorem prepare_spec {folder : List String} {name : String}
    (names : Path.names path = folder ++ [name]) (real : Path.isIdle name = false) :
    ((prepare w path).2 = none ↔ ∀ place ∈ (Path.start path).along folder, ¬ w.Bars place) ∧
    ((prepare w path).2 = none → ∀ place, (prepare w path).1.isFolder place = true ↔
      w.isFolder place = true ∨ place ∈ (Path.start path).along folder) := by
  unfold prepare
  simp only
  by_cases bare : Path.parent path = ""
  · have here := Location.along_of_isIdle (Path.isIdle_of_parent_eq_empty names real bare)
      (Path.start path)
    have start : w.isFolder (Path.start path) = true := isFolder_of_isAbove (isAbove_start path)
    rw [if_pos bare]
    refine ⟨iff_of_true rfl fun place hp => ?_, fun _ place =>
      (or_iff_left_of_imp fun hp => ?_).symm⟩
    · simp [Bars, here place hp, start]
    · rw [here place hp]
      exact start
  · have ne : folder ≠ [] := by
      rintro rfl
      exact bare (Path.parent_of_single names)
    rw [if_neg bare]
    unfold makeFolders
    rw [Path.start_parent names ne real]
    simp only [← Path.mem_along_parent_iff names ne real, Option.map_eq_none_iff]
    exact ⟨makeAlong_eq_none_iff, fun done place => isFolder_makeAlong done⟩

/-- A text is saved by writing it after the folders are made, and nothing else is done if one of
these steps fails. -/
theorem save_cases (w : Workspace) (path text : String) :
    (∃ w', (prepare w path).2 = none ∧ (prepare w path).1.write path text = .ok w' ∧
      save w path text = (w', none)) ∨
    ((prepare w path).2 = none → ∀ w', (prepare w path).1.write path text ≠ .ok w') ∧
      ∃ failure, save w path text = ((prepare w path).1, some failure) := by
  unfold save
  obtain ⟨made, failure⟩ := prepare w path
  cases failure with
  | some failure => exact .inr ⟨by simp, failure, rfl⟩
  | none =>
      simp only
      cases made.write path text with
      | error obstacle => exact .inr ⟨by simp, .write path obstacle, rfl⟩
      | ok w' => exact .inl ⟨w', by simp, rfl, rfl⟩

theorem save_eq_none_iff_write : (save w path text).2 = none ↔
    (prepare w path).2 = none ∧ ∃ w', (prepare w path).1.write path text = .ok w' := by
  rcases save_cases w path text with ⟨w', done, written, saved⟩ | ⟨refused, failure, saved⟩
  · rw [saved]
    exact iff_of_true rfl ⟨done, w', written⟩
  · rw [saved]
    exact iff_of_false (by simp) fun ⟨done, w', written⟩ => refused done w' written

/-- A text is saved just if the path ends in a name, no file is in the way to it, and at its place
is no folder, neither before nor after those on the way are made. -/
theorem save_eq_none_iff : (save w path text).2 = none ↔
    ∃ folder name, Path.names path = folder ++ [name] ∧ Path.isIdle name = false ∧
      (∀ place ∈ (Path.start path).along folder, ¬ w.Bars place) ∧
      w.isFolder ((Path.start path).after (Path.names path)) = false ∧
      (Path.start path).after (Path.names path) ∉ (Path.start path).along folder := by
  rw [save_eq_none_iff_write]
  constructor
  · rintro ⟨done, w', written⟩
    obtain ⟨⟨folder, name, names, real⟩, -, -⟩ := put_of_write written
    obtain ⟨free, made⟩ := @prepare_spec w _ _ _ names real
    rw [write_of_folders names real fun place hp => (made done place).2 (.inr hp)] at written
    split at written
    · cases written
    · rename_i other
      rw [made done, not_or, Bool.not_eq_true] at other
      exact ⟨folder, name, names, real, free.1 done, other⟩
  · rintro ⟨folder, name, names, real, free, other⟩
    obtain ⟨free', made⟩ := @prepare_spec w _ _ _ names real
    have done := free'.2 free
    rw [write_of_folders names real fun place hp => (made done place).2 (.inr hp), if_neg]
    · exact ⟨done, _, rfl⟩
    · rw [made done, not_or, Bool.not_eq_true]
      exact other

end Command

end FormRules
