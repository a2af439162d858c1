import ExitLang.Proofs.Outputs
import Mathlib.Logic.Relation

/-!
# Respelling a path

Components that lead back to where they are followed from can be put into a path anywhere, and a
relative path can be written behind the path of the working directory: the path is longer, and its
location is the same. The test for overwriting is a test of locations, so it gives one answer for
all spellings of its paths.

A respelling keeps the start of the path. Taking `.` off `.//a` leaves the absolute path `/a`, which
is another place.
-/

namespace ExitLang

namespace Path

/-- Components that lead back to where they are followed from: `.`, the empty one between two
slashes, or a name and `..` after it. -/
inductive IsIdle : List Bytes → Prop
  | here : IsIdle [here]
  | empty : IsIdle [[]]
  | detour {name : Bytes} (isName : Location.IsName name) : IsIdle [name, above]

/-- The second path is the first with idle components put in, or behind the working directory. -/
inductive Lengthened (workingDirectory : Bytes) : Bytes → Bytes → Prop
  | idle {path longer : Bytes} {before middle after : List Bytes} (isIdle : IsIdle middle)
      (shorter : components path = before ++ after)
      (inserted : components longer = before ++ middle ++ after)
      (sameStart : isAbsolute longer = isAbsolute path) :
      Lengthened workingDirectory path longer
  | resolved {path : Bytes} (relative : isAbsolute path = false) :
      Lengthened workingDirectory path (workingDirectory ++ utf8 "/" ++ path)

/-- Two spellings that differ by parts that were put in or left out, any number of them. -/
def Respelled (workingDirectory : Bytes) : Bytes → Bytes → Prop :=
  Relation.EqvGen (Lengthened workingDirectory)

theorem IsIdle.foldl_follow {components : List Bytes} (h : IsIdle components)
    (location : Location) : components.foldl Location.follow location = location := by
  cases h with
  | here =>
      rw [List.foldl_cons, List.foldl_nil, Location.follow, if_pos (Or.inr rfl)]
  | empty => exact Location.follow_nil location
  | @detour name hname =>
      have hup : Location.follow (name :: location) above = location := by
        rw [Location.follow, if_neg (by decide), if_pos rfl, List.tail_cons]
      rw [List.foldl_cons, List.foldl_cons, List.foldl_nil, Location.follow_of_isName hname, hup]

variable {workingDirectory path other : Bytes}

theorem Lengthened.lexical_eq (hworking : isAbsolute workingDirectory = true)
    (h : Lengthened workingDirectory path other) :
    Location.lexical workingDirectory other = Location.lexical workingDirectory path := by
  cases h with
  | idle hidle hshorter hinserted hstart =>
      rw [Location.lexical, Location.lexical, Location.ofPath, Location.ofPath.eq_def _ path,
        hshorter, hinserted, hstart]
      simp only [List.foldl_append, hidle.foldl_follow]
  | resolved hrelative =>
      have hrooted : isAbsolute (workingDirectory ++ utf8 "/" ++ path) = true := by
        rw [List.append_assoc]
        exact isAbsolute_append hworking _
      have hdirectory : (components workingDirectory).foldl Location.follow [] =
          Location.ofPath [] workingDirectory := by
        rw [Location.ofPath, if_pos hworking]
      rw [Location.lexical, Location.ofPath.eq_def _ (_ ++ path), if_pos hrooted,
        components_append_slash, List.foldl_append, hdirectory, Location.lexical,
        Location.ofPath.eq_def _ path, if_neg (by simp [hrelative])]

theorem Respelled.lexical_eq (hworking : isAbsolute workingDirectory = true)
    (h : Respelled workingDirectory path other) :
    Location.lexical workingDirectory other = Location.lexical workingDirectory path := by
  induction h with
  | rel _ _ hstep => exact hstep.lexical_eq hworking
  | refl _ => rfl
  | symm _ _ _ ih => exact ih.symm
  | trans _ _ _ _ _ ihleft ihright => exact ihright.trans ihleft

end Path

namespace OutputPaths

variable {workingDirectory : Bytes}

theorem overwrites_iff_lexical (hworking : Path.isAbsolute workingDirectory = true)
    (paths : OutputPaths) (source : Bytes) :
    paths.overwrites (some workingDirectory) source = true ↔
      ∃ output ∈ [paths.assembly, paths.object, paths.executable],
        Location.lexical workingDirectory output = Location.lexical workingDirectory source := by
  rw [overwrites, Path.absolute_eq_path_lexical hworking source]
  dsimp only
  rw [List.any_eq_true]
  simp only [Path.absolute_eq_path_lexical hworking, beq_iff_eq, Option.some_inj,
    Location.path_inj (Location.proper_lexical workingDirectory _)
      (Location.proper_lexical workingDirectory source)]

structure Respelled (workingDirectory : Bytes) (paths others : OutputPaths) : Prop where
  assembly : Path.Respelled workingDirectory paths.assembly others.assembly
  object : Path.Respelled workingDirectory paths.object others.object
  executable : Path.Respelled workingDirectory paths.executable others.executable

/-- **The test for overwriting sees through every spelling.** Read from an absolute working
directory, some output is found to be the source exactly when the two have one location, so the
answer stays the same when `.`, doubled slashes, detours or the path of the working directory are
put into any of the paths or left out. -/
theorem overwrites_iff_same_location (hworking : Path.isAbsolute workingDirectory = true)
    (paths : OutputPaths) (source : Bytes) :
    (paths.overwrites (some workingDirectory) source = true ↔
      ∃ output ∈ [paths.assembly, paths.object, paths.executable],
        Location.lexical workingDirectory output = Location.lexical workingDirectory source) ∧
    ∀ others otherSource, Respelled workingDirectory paths others →
      Path.Respelled workingDirectory source otherSource →
      others.overwrites (some workingDirectory) otherSource =
        paths.overwrites (some workingDirectory) source := by
  refine ⟨overwrites_iff_lexical hworking paths source, ?_⟩
  intro others otherSource hpaths hsource
  rw [Bool.eq_iff_iff, overwrites_iff_lexical hworking, overwrites_iff_lexical hworking]
  simp only [List.exists_mem_cons_iff, hpaths.assembly.lexical_eq hworking,
    hpaths.object.lexical_eq hworking, hpaths.executable.lexical_eq hworking,
    hsource.lexical_eq hworking]

/-- The object file is found to be the source behind the path of the working directory, a detour
and a doubled slash. -/
theorem overwrites_behind_detour :
    Path.isAbsolute (utf8 "/w") = true ∧
      (beside (utf8 "/w/x/..//p") (utf8 ".asm")).overwrites (some (utf8 "/w")) (utf8 "./p.o") =
        true := by
  have hworking : Path.isAbsolute (utf8 "/w") = true := by decide
  have hname : Location.IsName (utf8 "x") := by constructor <;> decide
  have hspellings : ∀ name ∈ [utf8 "p.asm", utf8 "p.o", utf8 "p"],
      Path.isAbsolute name = false ∧
      Path.components (utf8 "/w/" ++ name) = [[], utf8 "w"] ++ [name] ∧
      Path.components (utf8 "/w/x/../" ++ name) =
        [[], utf8 "w"] ++ [utf8 "x", utf8 ".."] ++ [name] ∧
      Path.components (utf8 "/w/x/..//" ++ name) =
        [[], utf8 "w"] ++ [utf8 "x", utf8 ".."] ++ [[]] ++ [name] := by decide
  have houtput : ∀ name ∈ [utf8 "p.asm", utf8 "p.o", utf8 "p"],
      Path.Respelled (utf8 "/w") name (utf8 "/w/x/..//" ++ name) := by
    intro name hmem
    obtain ⟨hrelative, hresolved, hdetour, hslash⟩ := hspellings name hmem
    refine .trans _ (utf8 "/w/" ++ name) _ (.rel _ _ (.resolved hrelative)) ?_
    refine .trans _ (utf8 "/w/x/../" ++ name) _ ?_ ?_
    · exact .rel _ _ (.idle (.detour hname) hresolved hdetour rfl)
    · exact .rel _ _ (.idle .empty hdetour hslash rfl)
  have hsource : Path.Respelled (utf8 "/w") (utf8 "p.o") (utf8 "./p.o") := by
    have hshorter : Path.components (utf8 "p.o") = [] ++ [utf8 "p.o"] := by decide
    have hinserted : Path.components (utf8 "./p.o") = [] ++ [Path.here] ++ [utf8 "p.o"] := by
      decide
    exact .rel _ _ (.idle .here hshorter hinserted rfl)
  refine ⟨hworking, ?_⟩
  have hsame := (overwrites_iff_same_location hworking (beside (utf8 "p") (utf8 ".asm"))
    (utf8 "p.o")).2 (beside (utf8 "/w/x/..//p") (utf8 ".asm")) (utf8 "./p.o")
    ⟨houtput _ (by decide), houtput _ (by decide), houtput _ (by decide)⟩ hsource
  rw [hsame]
  decide

end OutputPaths

end ExitLang
