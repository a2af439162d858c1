import ExitLang.Proofs.FileEffects

/-!
# Which files paths name

A path names a file when each component before the last is a directory on the way and the last names
a file in the last of them. A way through a tree stays open while nothing on it is taken away, and
removing something never makes a path lead to where it did not lead before. So what a path has once
removed it cannot remove again.
-/

namespace ExitLang

/-! ### Ways through a tree -/

namespace FileTree

variable {tree : FileTree} {start directory : Standpoint}

/-- Every way through the first tree is one through the second. -/
structure Within (smaller larger : FileTree) : Prop where
  directory : ∀ location, smaller.get? location = some .directory →
    larger.get? location = some .directory
  entry : ∀ location, smaller.get? location ≠ none → larger.get? location ≠ none

theorem get?_of_get?_erase {location other : Location} {entry : Entry} (hne : location ≠ [])
    (h : (tree.erase location).get? other = some entry) : tree.get? other = some entry := by
  rw [get?_erase _ hne] at h
  split at h
  · cases h
  · exact h

theorem within_erase (tree : FileTree) {location : Location} (hne : location ≠ []) :
    (tree.erase location).Within tree := by
  refine ⟨fun other => get?_of_get?_erase hne, ?_⟩
  intro other hother
  obtain ⟨entry, hentry⟩ := Option.ne_none_iff_exists'.mp hother
  simp [get?_of_get?_erase hne hentry]

theorem Within.walk {smaller larger : FileTree} (h : smaller.Within larger) {names : List Bytes}
    (hwalk : smaller.walk start names = .ok directory) :
    larger.walk start names = .ok directory := by
  induction names generalizing start with
  | nil => rwa [FileTree.walk] at hwalk ⊢
  | cons component rest ih =>
      obtain ⟨next, hstep, hrest⟩ := walk_cons_eq_ok_iff.mp hwalk
      refine walk_cons_eq_ok_iff.mpr ⟨next, ?_, ih hrest⟩
      cases hstep with
      | stay => exact .stay _
      | leave => exact .leave _
      | here hdirectory => exact .here (h.directory _ hdirectory)
      | above hdirectory => exact .above (h.directory _ hdirectory)
      | child hdirectory hhere hup hshort hfound =>
          exact .child (h.directory _ hdirectory) hhere hup hshort (h.entry _ hfound)

/-- Whatever is reached from a directory, or from what the removal of another has left of it, is
reached from the directory. -/
theorem exists_walk_of_walk_without {location : Location} {later : Standpoint}
    (hdirectory : tree.get? location = some .directory)
    (hstart : later = start ∨ later = start.without location) {names : List Bytes}
    (hwalk : tree.walk later names = .ok directory) :
    ∃ earlier, tree.walk start names = .ok earlier ∧
      (directory = earlier ∨ directory = earlier.without location) := by
  induction names generalizing start later with
  | nil =>
      rw [FileTree.walk] at hwalk
      cases hwalk
      exact ⟨start, by rw [FileTree.walk], hstart⟩
  | cons component rest ih =>
      rcases hstart with rfl | rfl
      · exact ⟨directory, hwalk, .inl rfl⟩
      obtain ⟨next, hstep, hrest⟩ := walk_cons_eq_ok_iff.mp hwalk
      cases start with
      | removed above =>
          cases hstep with
          | stay =>
              have hstart : (above.without location).removed = above.removed.without location := rfl
              obtain ⟨earlier, hearlier, hleft⟩ := ih (.inr hstart) hrest
              exact ⟨earlier, walk_cons_eq_ok_iff.mpr ⟨_, .stay above, hearlier⟩, hleft⟩
          | leave =>
              obtain ⟨earlier, hearlier, hleft⟩ := ih (.inr rfl) hrest
              exact ⟨earlier, walk_cons_eq_ok_iff.mpr ⟨_, .leave above, hearlier⟩, hleft⟩
      | present here =>
          by_cases hsame : here = location
          · -- The directory itself is the one that was removed: only `.` and `..` lead on from it.
            subst hsame
            rw [Standpoint.without_present_self] at hstep
            cases hstep with
            | stay =>
                obtain ⟨earlier, hearlier, hleft⟩ :=
                  ih (.inr (Standpoint.without_present_self here).symm) hrest
                exact ⟨earlier, walk_cons_eq_ok_iff.mpr ⟨_, .here hdirectory, hearlier⟩, hleft⟩
            | leave =>
                exact ⟨directory, walk_cons_eq_ok_iff.mpr ⟨_, .above hdirectory, hrest⟩, .inl rfl⟩
          · rw [Standpoint.without_present_of_ne hsame] at hwalk
            exact ⟨directory, hwalk, .inl rfl⟩

/-- Without `..` a way only goes down, and in a removed directory it goes nowhere. -/
theorem exists_isSuffix_of_walk {names : List Bytes} {outer : Location}
    (hup : Path.above ∉ names) (hwalk : tree.walk start names = .ok (.present outer)) :
    ∃ here, start = .present here ∧ here <:+ outer := by
  induction names generalizing start with
  | nil =>
      rw [FileTree.walk] at hwalk
      cases hwalk
      exact ⟨outer, rfl, List.suffix_rfl⟩
  | cons component rest ih =>
      rw [List.mem_cons, not_or] at hup
      obtain ⟨next, hstep, hrest⟩ := walk_cons_eq_ok_iff.mp hwalk
      obtain ⟨further, rfl, hfurther⟩ := ih hup.2 hrest
      cases hstep with
      | leave | above => exact absurd rfl hup.1
      | here => exact ⟨further, rfl, hfurther⟩
      | child => exact ⟨_, rfl, (List.suffix_cons _ _).trans hfurther⟩

theorem walk_erase {names : List Bytes} {outer gone : Location} (hup : Path.above ∉ names)
    (hne : gone ≠ []) (hgone : ¬ gone <:+ outer)
    (hwalk : tree.walk start names = .ok (.present outer)) :
    (tree.erase gone).walk start names = .ok (.present outer) := by
  induction names generalizing start with
  | nil => rwa [FileTree.walk] at hwalk ⊢
  | cons component rest ih =>
      obtain ⟨here, rfl, hhere⟩ := exists_isSuffix_of_walk hup hwalk
      rw [List.mem_cons, not_or] at hup
      obtain ⟨next, hstep, hrest⟩ := walk_cons_eq_ok_iff.mp hwalk
      obtain ⟨further, rfl, hfurther⟩ := exists_isSuffix_of_walk hup.2 hrest
      -- What was erased is none of the directories on the way.
      have hkept : ∀ location, location <:+ outer →
          (tree.erase gone).get? location = tree.get? location := by
        intro location hlocation
        rw [get?_erase _ hne, if_neg]
        rintro rfl
        exact hgone hlocation
      refine walk_cons_eq_ok_iff.mpr ⟨_, ?_, ih hup.2 hrest⟩
      cases hstep with
      | above => exact absurd rfl hup.1
      | here hdirectory => exact .here ((hkept _ hhere).trans hdirectory)
      | child hdirectory hhereName hupName hshort hfound =>
          exact .child ((hkept _ hhere).trans hdirectory) hhereName hupName hshort
            (by rwa [hkept _ hfurther])

end FileTree

theorem Standpoint.eq_present_of_without {standpoint : Standpoint} {location here : Location}
    (h : .present here = standpoint.without location) : standpoint = .present here := by
  cases standpoint with
  | present other =>
      rw [Standpoint.without] at h
      split at h
      · cases h
      · exact h.symm
  | removed above => cases h

/-! ### Paths that lead to a file -/

namespace FileSystem

variable {files after : FileSystem} {path content : Bytes} {location : Location}

theorem LeadsTo.mono {smaller larger : FileTree} {standpoint : Standpoint}
    (h : LeadsTo ⟨smaller, standpoint⟩ path location) (hwithin : smaller.Within larger) :
    LeadsTo ⟨larger, standpoint⟩ path location := by
  obtain ⟨before, last, outer, hnames, hwalk, hdirectory, rfl⟩ := h
  exact ⟨before, last, outer, hnames, hwithin.walk hwalk, hwithin.directory outer hdirectory, rfl⟩

/-- A path that leads somewhere after a directory was removed led there before. -/
theorem LeadsTo.of_without {tree : FileTree} {standpoint : Standpoint} {removed : Location}
    (hdirectory : tree.get? removed = some .directory)
    (h : LeadsTo ⟨tree, standpoint.without removed⟩ path location) :
    LeadsTo ⟨tree, standpoint⟩ path location := by
  obtain ⟨before, last, outer, hnames, hwalk, houter, rfl⟩ := h
  have hstart : startOf ⟨tree, standpoint.without removed⟩ path = startOf ⟨tree, standpoint⟩ path ∨
      startOf ⟨tree, standpoint.without removed⟩ path =
        (startOf ⟨tree, standpoint⟩ path).without removed := by
    rw [startOf, startOf]
    split
    · exact .inl rfl
    · exact .inr rfl
  obtain ⟨earlier, hearlier, hleft⟩ :=
    FileTree.exists_walk_of_walk_without hdirectory hstart hwalk
  have hpresent : earlier = .present outer := by
    rcases hleft with rfl | hwithout
    · rfl
    · exact Standpoint.eq_present_of_without hwithout
  subst hpresent
  exact ⟨before, last, outer, hnames, hearlier, houter, rfl⟩

/-- A path without `..` leads where it did as long as none of the directories on its way is taken
away. -/
theorem LeadsTo.erase {tree : FileTree} {standpoint later : Standpoint} {gone : Location}
    (hup : Path.above ∉ Path.components path) (hne : gone ≠ [])
    (hlater : later = standpoint ∨ later = standpoint.without gone)
    (hgone : ¬ gone <:+ location.tail) (h : LeadsTo ⟨tree, standpoint⟩ path location) :
    LeadsTo ⟨tree.erase gone, later⟩ path location := by
  obtain ⟨before, last, outer, hnames, hwalk, hdirectory, rfl⟩ := h
  rw [List.tail_cons] at hgone
  have hbefore : Path.above ∉ before := by
    intro hmem
    have hfilter := hnames.names ▸ List.mem_append_left [last] hmem
    exact hup (List.mem_of_mem_filter hfilter)
  have hstart : startOf ⟨tree.erase gone, later⟩ path = startOf ⟨tree, standpoint⟩ path := by
    obtain ⟨here, hpresent, hhere⟩ := FileTree.exists_isSuffix_of_walk hbefore hwalk
    rw [startOf] at hpresent
    rw [startOf, startOf]
    split at hpresent
    · rename_i habsolute
      rw [if_pos habsolute, if_pos habsolute]
    · rename_i hrelative
      rw [if_neg hrelative, if_neg hrelative]
      rcases hlater with hsame | hwithout
      · exact hsame
      · have hother : here ≠ gone := by
          rintro rfl
          exact hgone hhere
        dsimp only at hpresent ⊢
        rw [hwithout, hpresent, Standpoint.without_present_of_ne hother]
  refine ⟨before, last, outer, hnames, ?_, ?_, rfl⟩
  · rw [hstart]
    exact FileTree.walk_erase hbefore hne hgone hwalk
  · rw [FileTree.get?_erase _ hne, if_neg, hdirectory]
    rintro rfl
    exact hgone List.suffix_rfl

/-! ### After a removal -/

/-- Removing never makes a path lead anywhere. -/
theorem LeadsTo.of_remove {other : Bytes} (hremove : files.remove other = .ok after)
    (h : after.LeadsTo path location) : files.LeadsTo path location := by
  obtain ⟨gone, -, hne, ⟨-, rfl⟩ | ⟨hdirectory, -, rfl⟩⟩ := exists_of_remove hremove
  · exact h.mono (FileTree.within_erase _ hne)
  · have hwithout := h.mono (FileTree.within_erase _ hne)
    exact hwithout.of_without hdirectory

/-- What a path has removed it does not remove again. -/
theorem remove_ne_ok_of_remove (hremove : files.remove path = .ok after) (again : FileSystem) :
    after.remove path ≠ .ok again := by
  intro hagain
  obtain ⟨location, hreach, -, hentry⟩ := exists_of_remove hagain
  obtain ⟨gone, hgone, hne, htree, hremnant⟩ := exists_erase_of_remove hremove
  -- The path reaches no other location than the one that was cleared.
  have hreached := hremnant.reach? hreach
  obtain rfl : gone = location := Option.some_inj.mp (hgone.symm.trans hreached)
  simp [htree, FileTree.get?_erase _ hne] at hentry

/-- A file that a path names can be removed by it. -/
theorem exists_remove_of_read (hread : files.read path = .ok content) :
    ∃ after, files.remove path = .ok after := by
  obtain ⟨location, hleads, hentry⟩ := read_eq_ok_iff.mp hread
  obtain ⟨directory, name, hplace, hlocate⟩ := leadsTo_iff.mp hleads
  simp [remove, hplace, hlocate, hentry]

theorem not_read_of_remove (hremove : files.remove path = .ok after) :
    after.read path ≠ .ok content := by
  intro hread
  obtain ⟨again, hagain⟩ := exists_remove_of_read hread
  exact remove_ne_ok_of_remove hremove again hagain

/-- Removing never makes a path name a file. -/
theorem read_of_read_remove {other : Bytes} (hremove : files.remove other = .ok after)
    (hread : after.read path = .ok content) : files.read path = .ok content := by
  obtain ⟨location, hleads, hentry⟩ := read_eq_ok_iff.mp hread
  obtain ⟨gone, -, hne, htree, -⟩ := exists_erase_of_remove hremove
  rw [htree] at hentry
  exact read_eq_ok_iff.mpr ⟨location, hleads.of_remove hremove,
    FileTree.get?_of_get?_erase hne hentry⟩

end FileSystem

end ExitLang
