import ExitLang.Proofs.Intermediates

/-!
# Cleaning up

The assembly and the object file of a build stand side by side, so removing one of them neither
empties the other nor takes away a directory on the way to it, unless the way goes up again by `..`.
Cleaning up therefore leaves nothing behind that its paths could remove, and doing it again does
nothing.
-/

namespace ExitLang

open FileSystem Location

/-! ### Side by side -/

theorem FileTree.hasChildren_erase_beside (tree : FileTree) (gone name : Bytes)
    (outer : Location) :
    (tree.erase (gone :: outer)).hasChildren (name :: outer) =
      tree.hasChildren (name :: outer) := by
  rw [erase, hasChildren, hasChildren, List.any_filter]
  congr 1
  funext ⟨place, entry⟩
  cases place with
  | nil => simp
  | cons first above =>
      by_cases hplace : first :: above = gone :: outer
      · cases hplace
        simp
      · simp [hplace]

theorem Path.above_notMem_components_append {path suffix : Bytes} (hsuffix : IsSuffix suffix)
    (h : Path.above ∉ Path.components path) : Path.above ∉ Path.components (path ++ suffix) := by
  obtain ⟨directories, last, hpath, happend⟩ := Path.exists_components_append path
  have hlast : (0x2F : UInt8) ∉ last :=
    Path.notMem_of_mem_components (hpath ▸ List.mem_append_right directories List.mem_cons_self)
  rw [hpath, List.mem_append, not_or] at h
  rw [happend suffix hsuffix.noSlash, List.mem_append, List.mem_singleton, not_or]
  exact ⟨h.1, (hsuffix.isName_append hlast).ne_above.symm⟩

namespace FileSystem

variable {files : FileSystem} {executable left right : Bytes} {place other : Location}

/-- Paths that differ in the ending of their last name lead to the same directory. -/
theorem LeadsTo.exists_beside (hleft : IsSuffix left) (hright : IsSuffix right)
    (hplace : files.LeadsTo (executable ++ left) place)
    (hother : files.LeadsTo (executable ++ right) other) :
    ∃ last outer, place = (last ++ left) :: outer ∧ other = (last ++ right) :: outer := by
  obtain ⟨directories, last, -, happend⟩ := Path.exists_components_append executable
  have hnames : ∀ suffix, IsSuffix suffix → ∀ before final,
      Path.Names (executable ++ suffix) before final →
      before = directories.filter (fun name => !name.isEmpty) ∧ final = last ++ suffix := by
    intro suffix hsuffix before final hnames
    have hne : last ++ suffix ≠ [] := by simp [hsuffix.ne_nil]
    have hfilter := hnames.names
    rw [happend suffix hsuffix.noSlash, List.filter_append,
      List.filter_cons_of_pos (by simpa using hne), List.filter_nil] at hfilter
    have hsplit := List.append_inj' hfilter rfl
    exact ⟨hsplit.1.symm, (List.singleton_inj.mp hsplit.2).symm⟩
  obtain ⟨_, _, outer, hplaceNames, hwalk, -, rfl⟩ := hplace
  obtain ⟨_, _, outer', hotherNames, hwalk', -, rfl⟩ := hother
  obtain ⟨rfl, rfl⟩ := hnames left hleft _ _ hplaceNames
  obtain ⟨rfl, rfl⟩ := hnames right hright _ _ hotherNames
  rw [startOf, Path.isAbsolute_append_of_notMem executable hleft.noSlash] at hwalk
  rw [startOf, Path.isAbsolute_append_of_notMem executable hright.noSlash, hwalk] at hwalk'
  cases hwalk'
  exact ⟨last, outer, rfl, rfl⟩

theorem remove_append_eq_ok_iff {after : FileSystem} {suffix : Bytes} (hsuffix : IsSuffix suffix) :
    files.remove (executable ++ suffix) = .ok after ↔
      ∃ location, files.LeadsTo (executable ++ suffix) location ∧
        ((∃ content, files.tree.get? location = some (.file content)) ∧
            after = { files with tree := files.tree.erase location } ∨
          files.tree.get? location = some .directory ∧ files.tree.hasChildren location = false ∧
            after = ⟨files.tree.erase location, files.workingDirectory.without location⟩) := by
  have hlast : ((executable ++ suffix).getLast? == some 0x2F) = false := by
    rw [List.getLast?_append_of_ne_nil _ hsuffix.ne_nil, beq_eq_false_iff_ne]
    exact fun hslash => hsuffix.noSlash (List.mem_of_getLast? hslash)
  rw [remove_eq_ok_iff]
  simp only [leadsTo_iff]
  constructor
  · rintro ⟨directory, name, slash, location, hplace, hlocate, hcase⟩
    obtain ⟨-, -, hslash, -⟩ := exists_of_place hplace
    obtain rfl : slash = false := hslash.symm.trans hlast
    exact ⟨location, ⟨directory, name, hplace, hlocate⟩,
      hcase.imp_left fun ⟨hentry, _, hafter⟩ => ⟨hentry, hafter⟩⟩
  · rintro ⟨location, ⟨directory, name, hplace, hlocate⟩, hcase⟩
    exact ⟨directory, name, false, location, hplace, hlocate,
      hcase.imp_left fun ⟨hentry, hafter⟩ => ⟨hentry, rfl, hafter⟩⟩

/-- What a removal has taken away, and what it can have done to the working directory. -/
theorem exists_of_remove_append {after : FileSystem} {suffix : Bytes} (hsuffix : IsSuffix suffix)
    (hremove : files.remove (executable ++ suffix) = .ok after) :
    ∃ gone, files.LeadsTo (executable ++ suffix) gone ∧ after.tree = files.tree.erase gone ∧
      (after.workingDirectory = files.workingDirectory ∨
        after.workingDirectory = files.workingDirectory.without gone) := by
  obtain ⟨gone, hgone, ⟨-, rfl⟩ | ⟨-, -, rfl⟩⟩ := (remove_append_eq_ok_iff hsuffix).mp hremove
  · exact ⟨gone, hgone, rfl, .inl rfl⟩
  · exact ⟨gone, hgone, rfl, .inr rfl⟩

/-- Removing what stands beside makes nothing removable. -/
theorem exists_remove_of_remove_beside {after later : FileSystem} (hleft : IsSuffix left)
    (hright : IsSuffix right) (hremove : files.remove (executable ++ right) = .ok after)
    (hlater : after.remove (executable ++ left) = .ok later) :
    ∃ earlier, files.remove (executable ++ left) = .ok earlier := by
  obtain ⟨place, hplace, hentry⟩ := (remove_append_eq_ok_iff hleft).mp hlater
  obtain ⟨gone, hgone, htree, -⟩ := exists_of_remove_append hright hremove
  have hbefore := hplace.of_remove hremove
  obtain ⟨last, outer, rfl, rfl⟩ := hbefore.exists_beside hleft hright hgone
  simp only [remove_append_eq_ok_iff hleft]
  rw [htree, FileTree.hasChildren_erase_beside] at hentry
  rcases hentry with ⟨⟨content, hfile⟩, -⟩ | ⟨hdirectory, hchildren, -⟩
  · have hkept := FileTree.get?_of_get?_erase (List.cons_ne_nil _ _) hfile
    exact ⟨_, _, hbefore, .inl ⟨⟨content, hkept⟩, rfl⟩⟩
  · have hkept := FileTree.get?_of_get?_erase (List.cons_ne_nil _ _) hdirectory
    exact ⟨_, _, hbefore, .inr ⟨hkept, hchildren, rfl⟩⟩

/-- The path leads to a directory that something is in. -/
structure LeadsToFull (files : FileSystem) (path : Bytes) (location : Location) : Prop where
  leads : files.LeadsTo path location
  directory : files.tree.get? location = some .directory
  full : files.tree.hasChildren location = true

theorem LeadsToFull.discard_eq {path : Bytes} {location : Location}
    (h : files.LeadsToFull path location) :
    discard files path = (files, [⟨.removing, path, .notEmpty⟩]) := by
  obtain ⟨directory, name, hplace, hlocate⟩ := leadsTo_iff.mp h.leads
  simp [discard, remove, hplace, hlocate, h.directory, h.full]

/-- A directory that something is in outlasts the removal of what stands beside it, and so does all
that is in it. -/
theorem LeadsToFull.remove_beside {after : FileSystem} (hleft : IsSuffix left)
    (hright : IsSuffix right) (hne : left ≠ right) (hup : Path.above ∉ Path.components executable)
    (h : files.LeadsToFull (executable ++ left) place)
    (hremove : files.remove (executable ++ right) = .ok after) :
    after.LeadsToFull (executable ++ left) place ∧
      ∀ location, place <:+ location → after.tree.get? location = files.tree.get? location := by
  obtain ⟨gone, hgone, htree, hlater⟩ := exists_of_remove_append hright hremove
  obtain ⟨last, outer, rfl, rfl⟩ := h.leads.exists_beside hleft hright hgone
  have hnil : (last ++ right) :: outer ≠ [] := List.cons_ne_nil _ _
  have hway : ¬ (last ++ right) :: outer <:+ ((last ++ left) :: outer).tail := by
    intro hsuffix
    have hlength := hsuffix.length_le
    simp only [List.tail_cons, List.length_cons] at hlength
    omega
  have hkept : ∀ location, (last ++ left) :: outer <:+ location →
      after.tree.get? location = files.tree.get? location := by
    intro location hlocation
    rw [htree, FileTree.get?_erase _ hnil, if_neg]
    -- No location in the directory is as short as the one that was cleared, but its own.
    rintro rfl
    have hsame := hlocation.eq_of_length rfl
    simp [hne] at hsame
  refine ⟨⟨?_, ?_, ?_⟩, hkept⟩
  · have hleads := h.leads.erase (Path.above_notMem_components_append hleft hup) hnil hlater hway
    rwa [← htree] at hleads
  · exact (hkept _ List.suffix_rfl).trans h.directory
  · rw [htree, FileTree.hasChildren_erase_beside]
    exact h.full

end FileSystem

/-! ### Both removals -/

theorem discard_of_refused {files : FileSystem} {path : Bytes}
    (h : ∀ after, files.remove path ≠ .ok after) : (discard files path).1 = files := by
  rw [discard]
  split
  · rename_i after hremove
    exact absurd hremove (h after)
  · rfl

theorem discard_of_remove_eq_ok {files after : FileSystem} {path : Bytes}
    (h : files.remove path = .ok after) : discard files path = (after, []) := by
  rw [discard, h]

theorem discard_of_remove_eq_error {files : FileSystem} {path : Bytes} {e : FileError}
    (h : files.remove path = .error e) :
    discard files path = (files, if e.fault = .missing then [] else [e]) := by
  rw [discard, h]

/-- What could be removed at a path is gone once it has been discarded. -/
theorem remove_discard_ne_ok (files : FileSystem) (path : Bytes) (after : FileSystem) :
    (discard files path).1.remove path ≠ .ok after := by
  cases hremove : files.remove path with
  | ok removed =>
      rw [discard_of_remove_eq_ok hremove]
      exact remove_ne_ok_of_remove hremove after
  | error e =>
      rw [discard_of_remove_eq_error hremove]
      simp [hremove]

theorem remove_discard_beside_ne_ok {files : FileSystem} {executable left right : Bytes}
    (hleft : IsSuffix left) (hright : IsSuffix right)
    (h : ∀ after, files.remove (executable ++ left) ≠ .ok after) (after : FileSystem) :
    (discard files (executable ++ right)).1.remove (executable ++ left) ≠ .ok after := by
  cases hremove : files.remove (executable ++ right) with
  | ok removed =>
      rw [discard_of_remove_eq_ok hremove]
      intro hafter
      obtain ⟨earlier, hearlier⟩ := exists_remove_of_remove_beside hleft hright hremove hafter
      exact h earlier hearlier
  | error e =>
      rw [discard_of_remove_eq_error hremove]
      exact h after

theorem FileSystem.LeadsToFull.discard_beside {files : FileSystem} {executable left right : Bytes}
    {place : Location} (hleft : IsSuffix left) (hright : IsSuffix right) (hne : left ≠ right)
    (hup : Path.above ∉ Path.components executable)
    (h : files.LeadsToFull (executable ++ left) place) :
    (discard files (executable ++ right)).1.LeadsToFull (executable ++ left) place ∧
      ∀ location, place <:+ location →
        (discard files (executable ++ right)).1.tree.get? location = files.tree.get? location := by
  cases hremove : files.remove (executable ++ right) with
  | ok removed =>
      rw [discard_of_remove_eq_ok hremove]
      exact h.remove_beside hleft hright hne hup hremove
  | error e =>
      rw [discard_of_remove_eq_error hremove]
      exact ⟨h, fun _ _ => rfl⟩

/-- After cleaning up, neither path has anything left to remove. -/
theorem remove_cleanUp_ne_ok (files : FileSystem) (executable : Bytes) (target : Target) :
    let paths := OutputPaths.beside executable target.extension
    (∀ after, (cleanUp files paths).1.remove paths.assembly ≠ .ok after) ∧
      ∀ after, (cleanUp files paths).1.remove paths.object ≠ .ok after := by
  intro paths
  constructor
  · exact remove_discard_beside_ne_ok target.isSuffix_extension OutputPaths.isSuffix_object
      (remove_discard_ne_ok files paths.assembly)
  · exact remove_discard_ne_ok (discard files paths.assembly).1 paths.object

theorem cleanUp_of_refused {files : FileSystem} {paths : OutputPaths}
    (hassembly : ∀ after, files.remove paths.assembly ≠ .ok after)
    (hobject : ∀ after, files.remove paths.object ≠ .ok after) :
    (cleanUp files paths).1 = files := by
  have hfirst := discard_of_refused hassembly
  rw [cleanUp]
  dsimp only
  rw [hfirst]
  exact discard_of_refused hobject

/-- A directory at one of the paths that something is in stays with all that is in it, and is
reported. -/
theorem FileSystem.LeadsToFull.cleanUp {files : FileSystem} {executable path : Bytes}
    {target : Target} {place : Location} (hup : Path.above ∉ Path.components executable)
    (hpath : path = executable ++ target.extension ∨ path = executable ++ utf8 ".o")
    (h : files.LeadsToFull path place) :
    let result := ExitLang.cleanUp files (OutputPaths.beside executable target.extension)
    (∀ location, place <:+ location →
      result.1.tree.get? location = files.tree.get? location) ∧
    ⟨.removing, path, .notEmpty⟩ ∈ result.2 := by
  have hextension := target.isSuffix_extension
  have hobject := OutputPaths.isSuffix_object
  have hne := target.extension_ne_object
  dsimp only [ExitLang.cleanUp, OutputPaths.beside]
  rcases hpath with rfl | rfl
  · -- The assembly is refused first, and then the object file is removed beside it.
    have hkept := (h.discard_beside hextension hobject hne hup).2
    rw [h.discard_eq]
    exact ⟨hkept, List.mem_append_left _ List.mem_cons_self⟩
  · -- The object file is still found after the removal of the assembly.
    obtain ⟨hfull, hkept⟩ := h.discard_beside hobject hextension hne.symm hup
    rw [hfull.discard_eq]
    exact ⟨hkept, List.mem_append_right _ List.mem_cons_self⟩

/-- Cleaning up leaves no file at its paths and everything else as it is, tries both removals, keeps
and reports directories that something is in, and does nothing when it is done again. -/
theorem cleanUp_complete_local_idempotent (files : FileSystem) (executable : Bytes)
    (target : Target) :
    let paths := OutputPaths.beside executable target.extension
    let after := (cleanUp files paths).1
    let errors := (cleanUp files paths).2
    (¬ after.NamesFile paths.assembly ∧ ¬ after.NamesFile paths.object) ∧
    (∀ location, files.workingDirectory.reach? paths.assembly ≠ some location →
      files.workingDirectory.reach? paths.object ≠ some location →
      after.tree.get? location = files.tree.get? location) ∧
    (∀ refusal, files.remove paths.assembly = .error refusal →
      (refusal.fault ≠ .missing → refusal ∈ errors) ∧
      (∀ removed, files.remove paths.object = .ok removed → after = removed) ∧
      (∀ second, files.remove paths.object = .error second →
        after = files ∧ (second.fault ≠ .missing → second ∈ errors))) ∧
    (Path.above ∉ Path.components executable → ∀ path,
      path = paths.assembly ∨ path = paths.object → ∀ place, files.LeadsTo path place →
      files.tree.get? place = some .directory → files.tree.hasChildren place = true →
      (∀ location, place <:+ location → after.tree.get? location = files.tree.get? location) ∧
      ⟨.removing, path, .notEmpty⟩ ∈ errors) ∧
    (cleanUp after paths).1 = after := by
  intro paths after errors
  refine ⟨not_namesFile_cleanUp files paths, ?_, ?_, ?_, ?_⟩
  · intro location hassembly hobject
    exact (changesOnly_cleanUp files paths).outside location (by simp [hassembly, hobject])
  · intro refusal hrefusal
    have hfirst := discard_of_remove_eq_error hrefusal
    refine ⟨?_, ?_, ?_⟩
    · intro hfault
      simp [errors, cleanUp, hfirst, hfault]
    · intro removed hremove
      simp [after, cleanUp, hfirst, discard_of_remove_eq_ok hremove]
    · intro second hsecond
      simp +contextual [after, errors, cleanUp, hfirst, discard_of_remove_eq_error hsecond]
  · intro hup path hpath place hleads hdirectory hfull
    exact LeadsToFull.cleanUp hup hpath ⟨hleads, hdirectory, hfull⟩
  · obtain ⟨hassembly, hobject⟩ := remove_cleanUp_ne_ok files executable target
    exact cleanUp_of_refused hassembly hobject

theorem cleanUp_keeps_full_directory_beside_object :
    let tree := (FileTree.empty.addFile [utf8 "x", utf8 "p.asm", utf8 "w"] (utf8 "kept")).addFile
      [utf8 "p.o", utf8 "w"] (utf8 "object")
    let result := cleanUp ⟨tree, .present [utf8 "w"]⟩ (.beside (utf8 "p") (utf8 ".asm"))
    result.1.tree.get? [utf8 "x", utf8 "p.asm", utf8 "w"] = some (.file (utf8 "kept")) ∧
      ⟨.removing, utf8 "p.asm", .notEmpty⟩ ∈ result.2 ∧ ¬ result.1.NamesFile (utf8 "p.o") := by
  intro tree result
  obtain ⟨⟨-, hobject⟩, -, -, hfull, -⟩ :=
    cleanUp_complete_local_idempotent ⟨tree, .present [utf8 "w"]⟩ (utf8 "p") .linuxAmd64
  have hleads : LeadsTo ⟨tree, .present [utf8 "w"]⟩ (utf8 "p.asm") [utf8 "p.asm", utf8 "w"] :=
    leadsTo_iff.mpr ⟨.present [utf8 "w"], utf8 "p.asm", by decide, by decide⟩
  obtain ⟨hkept, hreported⟩ := hfull (by decide) (utf8 "p.asm") (.inl (by decide)) _ hleads
    (by decide) (by decide)
  exact ⟨(hkept _ (List.suffix_cons _ _)).trans (by decide), hreported, hobject⟩

/-- A way that goes through the assembly's location and up again is cut off by the first removal,
and the object's directory goes unreported. -/
example :
    let tree := (FileTree.empty.addDirectory [utf8 "x.asm"]).addFile [utf8 "y", utf8 "x.o"] []
    (cleanUp ⟨tree, .present []⟩ (.beside (utf8 "x.asm/../x") (utf8 ".asm"))).2 = [] := by decide

end ExitLang
