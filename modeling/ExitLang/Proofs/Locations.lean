import ExitLang.Path.Location
import ExitLang.Proofs.Words

/-!
# Paths and locations

The location of a path is where its components lead from a working directory. The absolute form of a
path is the path of its location, and a location whose names are ordinary is recovered from its
path, so two paths have one absolute form exactly when they have one location. This turns questions
about spellings of paths into questions about lists of names: how a suffix changes the location of a
path, and what the parent and the last component of an absolute path are.
-/

namespace ExitLang

namespace Path

/-! ### Components -/

theorem components_append_slash (left right : Bytes) :
    components (left ++ utf8 "/" ++ right) = components left ++ components right := by
  rw [List.append_assoc]
  exact Bytes.splitOn_append_cons 0x2F left right

theorem components_slash_append (path : Bytes) :
    components (utf8 "/" ++ path) = [] :: components path :=
  Bytes.splitOn_append_cons 0x2F [] path

theorem components_of_notMem {name : Bytes} (h : (0x2F : UInt8) ∉ name) :
    components name = [name] :=
  Bytes.splitOn_of_notMem h

theorem notMem_of_mem_components {path component : Bytes} (h : component ∈ components path) :
    (0x2F : UInt8) ∉ component :=
  Bytes.notMem_of_mem_splitOn h

theorem components_joinComponents {names : List Bytes} (hne : names ≠ [])
    (hnames : ∀ name ∈ names, (0x2F : UInt8) ∉ name) :
    components (joinComponents names) = names :=
  Bytes.splitOn_joinWith hne hnames

theorem isAbsolute_iff {path : Bytes} : isAbsolute path = true ↔ ∃ rest, path = 0x2F :: rest := by
  cases path with
  | nil => simp [isAbsolute]
  | cons b rest => simp [isAbsolute]

theorem isAbsolute_append_of_ne_nil {path : Bytes} (h : path ≠ []) (suffix : Bytes) :
    isAbsolute (path ++ suffix) = isAbsolute path := by
  rw [isAbsolute, isAbsolute, List.head?_append_of_ne_nil path h]

theorem isAbsolute_append {path : Bytes} (h : isAbsolute path = true) (suffix : Bytes) :
    isAbsolute (path ++ suffix) = true := by
  obtain ⟨rest, rfl⟩ := isAbsolute_iff.mp h
  rfl

end Path

namespace Location

/-! ### Ordinary names -/

/-- A name that a directory entry can have. -/
structure IsName (name : Bytes) : Prop where
  ne_nil : name ≠ []
  ne_here : name ≠ Path.here
  ne_above : name ≠ Path.above
  noSlash : (0x2F : UInt8) ∉ name

/-- All names on the way to the location are ordinary. -/
def Proper (location : Location) : Prop := ∀ name ∈ location, IsName name

theorem proper_cons {name : Bytes} {location : Location} :
    Proper (name :: location) ↔ IsName name ∧ Proper location :=
  List.forall_mem_cons

theorem proper_nil : Proper [] := fun _ hmem => absurd hmem List.not_mem_nil

theorem Proper.tail {location : Location} (h : Proper location) : Proper location.tail :=
  fun name hmem => h name (List.mem_of_mem_tail hmem)

theorem follow_of_isName {name : Bytes} (h : IsName name) (location : Location) :
    location.follow name = name :: location := by
  rw [follow, if_neg (not_or_intro h.ne_nil h.ne_here), if_neg h.ne_above]

theorem follow_nil (location : Location) : location.follow [] = location :=
  if_pos (Or.inl rfl)

/-- A component without a slash leads on to an ordinary name, or stays, or goes up. -/
theorem follow_cases (location : Location) {component : Bytes}
    (h : (0x2F : UInt8) ∉ component) :
    IsName component ∧ location.follow component = component :: location ∨
      location.follow component = location ∨ location.follow component = location.tail := by
  rw [follow]
  by_cases hstay : component = [] ∨ component = Path.here
  · rw [if_pos hstay]
    exact Or.inr (Or.inl rfl)
  rw [if_neg hstay]
  by_cases hup : component = Path.above
  · rw [if_pos hup]
    exact Or.inr (Or.inr rfl)
  rw [if_neg hup]
  rw [not_or] at hstay
  exact Or.inl ⟨⟨hstay.1, hstay.2, hup, h⟩, rfl⟩

theorem Proper.follow {location : Location} (h : Proper location) {component : Bytes}
    (hcomponent : (0x2F : UInt8) ∉ component) : Proper (location.follow component) := by
  rcases follow_cases location hcomponent with ⟨hname, heq⟩ | heq | heq <;> rw [heq]
  · exact proper_cons.mpr ⟨hname, h⟩
  · exact h
  · exact h.tail

theorem Proper.foldl_follow {location : Location} (h : Proper location) {components : List Bytes}
    (hcomponents : ∀ component ∈ components, (0x2F : UInt8) ∉ component) :
    Proper (components.foldl Location.follow location) := by
  induction components generalizing location with
  | nil => exact h
  | cons component rest ih =>
      rw [List.forall_mem_cons] at hcomponents
      exact ih (h.follow hcomponents.1) hcomponents.2

theorem Proper.ofPath {workingDirectory : Location} (h : Proper workingDirectory) (path : Bytes) :
    Proper (ofPath workingDirectory path) := by
  apply Proper.foldl_follow
  · split
    · exact proper_nil
    · exact h
  · exact fun component hmem => Path.notMem_of_mem_components hmem

/-- Ordinary names are pushed one after the other. -/
theorem foldl_follow_of_isName {names : List Bytes} (h : ∀ name ∈ names, IsName name)
    (location : Location) : names.foldl follow location = names.reverse ++ location := by
  induction names generalizing location with
  | nil => rfl
  | cons name rest ih =>
      rw [List.forall_mem_cons] at h
      rw [List.foldl_cons, follow_of_isName h.1, ih h.2, List.reverse_cons, List.append_assoc,
        List.singleton_append]

/-! ### Locations and their paths -/

theorem isAbsolute_path (location : Location) : Path.isAbsolute location.path = true := rfl

/-- The components of the path of a location: its names, after the empty one before the slash. -/
theorem components_path {location : Location} (h : Proper location) (hne : location ≠ []) :
    Path.components location.path = [] :: location.reverse := by
  have hnames : ∀ name ∈ location.reverse, (0x2F : UInt8) ∉ name :=
    fun name hmem => (h name (List.mem_reverse.mp hmem)).noSlash
  rw [path, Path.components_slash_append,
    Path.components_joinComponents (List.reverse_ne_nil_iff.mpr hne) hnames]

theorem foldl_follow_components_path {location : Location} (h : Proper location) :
    (Path.components location.path).foldl follow [] = location := by
  by_cases hnil : location = []
  · rw [hnil]
    rfl
  · have hnames : ∀ name ∈ location.reverse, IsName name :=
      fun name hmem => h name (List.mem_reverse.mp hmem)
    rw [components_path h hnil, List.foldl_cons, follow_nil, foldl_follow_of_isName hnames,
      List.reverse_reverse, List.append_nil]

/-- A location with ordinary names is recovered from its path. -/
theorem ofPath_path {location : Location} (h : Proper location) (workingDirectory : Location) :
    ofPath workingDirectory location.path = location := by
  rw [ofPath, if_pos (isAbsolute_path location), foldl_follow_components_path h]

theorem path_inj {left right : Location} (hleft : Proper left) (hright : Proper right) :
    left.path = right.path ↔ left = right := by
  constructor
  · intro heq
    rw [← ofPath_path hleft [], heq, ofPath_path hright]
  · exact congrArg path

/-- The location that a path has when it is read from the directory at another path. -/
def lexical (workingDirectory path : Bytes) : Location := ofPath (ofPath [] workingDirectory) path

theorem proper_lexical (workingDirectory path : Bytes) : Proper (lexical workingDirectory path) :=
  (proper_nil.ofPath workingDirectory).ofPath path

end Location

namespace Path

/-- Names gathered from the root never hold `..`, so going up always takes a name away. -/
theorem pushComponent_eq_follow (component : Bytes) {names : Location} (h : above ∉ names) :
    pushComponent true names component = names.follow component := by
  unfold pushComponent Location.follow
  by_cases hstay : component = [] ∨ component = here
  · rw [if_pos hstay, if_pos hstay]
  rw [if_neg hstay, if_neg hstay]
  by_cases hup : component = above
  · rw [if_pos hup, if_pos hup]
    cases names with
    | nil => rfl
    | cons name outer =>
        rw [List.mem_cons, not_or] at h
        exact if_neg (Ne.symm h.1)
  · rw [if_neg hup, if_neg hup]

theorem above_notMem_follow (component : Bytes) {names : Location} (h : above ∉ names) :
    above ∉ names.follow component := by
  rw [Location.follow]
  split
  · exact h
  split
  · exact fun hmem => h (List.mem_of_mem_tail hmem)
  · rename_i hup
    rw [List.mem_cons, not_or]
    exact ⟨Ne.symm hup, h⟩

theorem foldl_pushComponent (components : List Bytes) {names : Location} (h : above ∉ names) :
    components.foldl (pushComponent true) names = components.foldl Location.follow names := by
  induction components generalizing names with
  | nil => rfl
  | cons component rest ih =>
      rw [List.foldl_cons, List.foldl_cons, pushComponent_eq_follow component h,
        ih (above_notMem_follow component h)]

theorem clean_of_isAbsolute {path : Bytes} (h : isAbsolute path = true) :
    clean path = Location.path ((components path).foldl Location.follow []) := by
  rw [clean, if_pos h, h, foldl_pushComponent _ List.not_mem_nil]
  rfl

theorem join_of_isAbsolute {directory : Bytes} (h : isAbsolute directory = true) (name : Bytes) :
    join directory name =
      Location.path ((components name).foldl Location.follow (Location.ofPath [] directory)) := by
  have hne : directory ≠ [] := by
    rintro rfl
    cases h
  have hrooted : isAbsolute (directory ++ utf8 "/" ++ name) = true := by
    rw [List.append_assoc]
    exact isAbsolute_append h _
  rw [join, if_pos hne, clean_of_isAbsolute hrooted, components_append_slash, List.foldl_append,
    Location.ofPath, if_pos h]

theorem absolute_of_isAbsolute {path : Bytes} (h : isAbsolute path = true)
    (workingPath : Option Bytes) (workingDirectory : Location) :
    absolute workingPath path = some (workingDirectory.ofPath path).path := by
  rw [absolute, if_pos h, clean_of_isAbsolute h, Location.ofPath, if_pos h]

/-- The absolute form of a path is the path of its location. -/
theorem absolute_eq_path_lexical {workingDirectory : Bytes}
    (h : isAbsolute workingDirectory = true) (path : Bytes) :
    absolute (some workingDirectory) path =
      some (Location.lexical workingDirectory path).path := by
  by_cases hpath : isAbsolute path = true
  · exact absolute_of_isAbsolute hpath _ _
  · have hrelative : Location.lexical workingDirectory path =
        (components path).foldl Location.follow (Location.ofPath [] workingDirectory) := by
      rw [Location.lexical, Location.ofPath.eq_def _ path, if_neg hpath]
    rw [absolute, if_neg hpath, Option.map_some, join_of_isAbsolute h, hrelative]

theorem joinComponents_concat_append (outer : List Bytes) (last suffix : Bytes) :
    joinComponents (outer ++ [last ++ suffix]) = joinComponents (outer ++ [last]) ++ suffix :=
  Bytes.joinWith_concat_append _ outer last suffix

/-- A suffix without a slash goes to the last component and leaves the others as they are. -/
theorem exists_components_append (path : Bytes) :
    ∃ outer last, components path = outer ++ [last] ∧
      ∀ suffix : Bytes, (0x2F : UInt8) ∉ suffix →
        components (path ++ suffix) = outer ++ [last ++ suffix] :=
  Bytes.exists_splitOn_append 0x2F path

theorem isAbsolute_append_of_notMem (path : Bytes) {suffix : Bytes}
    (h : (0x2F : UInt8) ∉ suffix) : isAbsolute (path ++ suffix) = isAbsolute path := by
  cases path with
  | nil =>
      cases suffix with
      | nil => rfl
      | cons b rest =>
          have hb : b ≠ 0x2F := fun heq => h (heq ▸ List.mem_cons_self)
          simp [isAbsolute, hb]
  | cons b rest => rfl

end Path

namespace Location

/-! ### Suffixes -/

/-- What can be added to any component and makes an ordinary name of it: more than dots, and no
slash. -/
structure IsSuffix (suffix : Bytes) : Prop where
  notDots : ∃ b ∈ suffix, b ≠ 0x2E
  noSlash : (0x2F : UInt8) ∉ suffix

theorem IsSuffix.ne_nil {suffix : Bytes} (h : IsSuffix suffix) : suffix ≠ [] := by
  obtain ⟨b, hmem, -⟩ := h.notDots
  exact List.ne_nil_of_mem hmem

theorem IsSuffix.isName_append {suffix : Bytes} (h : IsSuffix suffix) {component : Bytes}
    (hcomponent : (0x2F : UInt8) ∉ component) : IsName (component ++ suffix) := by
  obtain ⟨b, hmem, hb⟩ := h.notDots
  have hne : ∀ dots : Bytes, (∀ d ∈ dots, d = 0x2E) → component ++ suffix ≠ dots :=
    fun dots hdots heq => hb (hdots b (heq ▸ List.mem_append_right component hmem))
  exact ⟨hne [] (by simp), hne Path.here (by decide), hne Path.above (by decide),
    fun hslash => (List.mem_append.mp hslash).elim hcomponent h.noSlash⟩

theorem IsSuffix.append {left right : Bytes} (hleft : IsSuffix left) (hright : IsSuffix right) :
    IsSuffix (left ++ right) := by
  obtain ⟨b, hmem, hb⟩ := hleft.notDots
  exact ⟨⟨b, List.mem_append_left right hmem, hb⟩,
    fun hslash => (List.mem_append.mp hslash).elim hleft.noSlash hright.noSlash⟩

/-- A suffix changes the location of a path by the last name only. -/
theorem exists_ofPath_append (workingDirectory : Location) (path : Bytes) :
    ∃ (outer : Location) (last : Bytes), ofPath workingDirectory path = outer.follow last ∧
      ∀ suffix, IsSuffix suffix →
        ofPath workingDirectory (path ++ suffix) = (last ++ suffix) :: outer := by
  obtain ⟨outer, last, hpath, happend⟩ := Path.exists_components_append path
  have hlast : (0x2F : UInt8) ∉ last :=
    Path.notMem_of_mem_components (hpath ▸ List.mem_append_right outer List.mem_cons_self)
  refine ⟨outer.foldl follow (if Path.isAbsolute path then [] else workingDirectory), last, ?_, ?_⟩
  · rw [ofPath, hpath, List.foldl_append]
    rfl
  · intro suffix hsuffix
    rw [ofPath, happend suffix hsuffix.noSlash,
      Path.isAbsolute_append_of_notMem path hsuffix.noSlash, List.foldl_append, List.foldl_cons,
      List.foldl_nil, follow_of_isName (hsuffix.isName_append hlast)]

/-- No component leads to a longer name beside it. -/
theorem follow_ne_append_cons (outer : Location) (component : Bytes) {suffix : Bytes}
    (hne : suffix ≠ []) : outer.follow component ≠ (component ++ suffix) :: outer := by
  intro heq
  rw [follow] at heq
  split at heq
  · exact absurd (congrArg List.length heq) (by simp)
  split at heq
  · have hlength := congrArg List.length heq
    simp at hlength
  · have hname := (List.cons.inj heq).1
    exact hne (List.append_right_eq_self.mp hname.symm)

/-! ### The parent and the name of a location -/

theorem join_path {location : Location} (h : Proper location) {component : Bytes}
    (hcomponent : (0x2F : UInt8) ∉ component) :
    Path.join location.path component = (location.follow component).path := by
  rw [Path.join_of_isAbsolute (isAbsolute_path location), ofPath_path h,
    Path.components_of_notMem hcomponent]
  rfl

theorem path_ne_nil (location : Location) : location.path ≠ [] := by
  intro hnil
  have habsolute := isAbsolute_path location
  rw [hnil] at habsolute
  cases habsolute

/-- The parent directory of an absolute path is that of its location. -/
theorem parent_path {location : Location} (h : Proper location) :
    Path.parent location.path = path location.tail := by
  cases location with
  | nil => decide
  | cons name outer =>
      have houter := (proper_cons.mp h).2
      have hnames : ∀ part ∈ ([] : Bytes) :: outer.reverse, (0x2F : UInt8) ∉ part := by
        rw [List.forall_mem_cons]
        exact ⟨List.not_mem_nil, fun part hmem => (houter part (List.mem_reverse.mp hmem)).noSlash⟩
      have hdrop : (Path.components (path (name :: outer))).dropLast = [] :: outer.reverse := by
        rw [components_path h (List.cons_ne_nil _ _), List.reverse_cons, ← List.cons_append,
          List.dropLast_concat]
      have hcomponents : Path.components (Path.joinComponents ([] :: outer.reverse) ++ utf8 "/")
          = [] :: outer.reverse ++ [[]] := by
        rw [← List.append_nil (_ ++ utf8 "/"), Path.components_append_slash,
          Path.components_joinComponents (List.cons_ne_nil _ _) hnames]
        rfl
      have hrooted : Path.isAbsolute
          (Path.joinComponents ([] :: outer.reverse) ++ utf8 "/") = true := by
        cases hreverse : outer.reverse with
        | nil => rfl
        | cons part rest => rfl
      have hordinary : ∀ part ∈ outer.reverse, IsName part :=
        fun part hmem => houter part (List.mem_reverse.mp hmem)
      rw [Path.parent, hdrop]
      dsimp only
      rw [Path.clean_of_isAbsolute hrooted, hcomponents, List.foldl_append]
      simp only [List.foldl_cons, List.foldl_nil, follow_nil, foldl_follow_of_isName hordinary,
        List.reverse_reverse, List.append_nil, List.tail_cons]

/-- The last component of an absolute path is the name of its location. -/
theorem base_path_cons {name : Bytes} {outer : Location} (h : Proper (name :: outer)) :
    Path.base (path (name :: outer)) = name := by
  have hnonempty : (outer.reverse ++ [name]).filter (fun part => !part.isEmpty)
      = outer.reverse ++ [name] := by
    apply List.filter_eq_self.mpr
    intro part hmem
    have hpart : part ∈ name :: outer := by simpa [or_comm] using hmem
    simpa using (h part hpart).ne_nil
  rw [Path.base, if_neg (path_ne_nil _), components_path h (List.cons_ne_nil _ _),
    List.reverse_cons, List.filter_cons_of_neg (by simp), hnonempty, List.getLast?_concat]
  rfl

end Location

end ExitLang
