import Mathlib.Data.List.Basic
import ServiceStubs.Import
import ServiceStubs.Proofs.ImportSet
import ServiceStubs.Proofs.Lines
/-!
Dotted texts read as module paths. Reading a text leaves segments that are
neither empty nor dotted, so what is shown of them is read back as it was. A
path that was put together from segments may have a dot within one, and is then
read back as a longer one.
-/

namespace ServiceStubs

namespace ModulePath

theorem ofDotted_append (before after : String) :
    ofDotted (before ++ "." ++ after) = (ofDotted before).join (ofDotted after) := by
  have text : (before ++ "." ++ after).toList = before.toList ++ '.' :: after.toList := by simp
  rw [ofDotted, ofSegments, text, Text.split_append, List.map_append, List.filter_append]
  rfl

/-- Each segment of a path that is shown is read on its own. -/
theorem segments_ofDotted_text (path : ModulePath) :
    (ofDotted path.text).segments = path.segments.flatMap fun segment =>
      (ofDotted segment).segments := by
  obtain ⟨segments⟩ := path
  induction segments with
  | nil => decide
  | cons first rest ih =>
      cases rest with
      | nil => simp [text]
      | cons second others =>
          have shown : text ⟨first :: second :: others⟩ =
              first ++ "." ++ text ⟨second :: others⟩ := String.intercalate_cons_cons
          rw [shown, ofDotted_append, List.flatMap_cons, ← ih]
          rfl

def IsSegment (text : String) : Prop :=
  text ≠ "" ∧ '.' ∉ text.toList

theorem isSegment_of_mem {text segment : String} (member : segment ∈ (ofDotted text).segments) :
    IsSegment segment := by
  obtain ⟨listed, named⟩ := List.mem_filter.1 member
  obtain ⟨piece, split, rfl⟩ := List.mem_map.1 listed
  refine ⟨by simpa using named, ?_⟩
  rw [String.toList_ofList]
  exact Text.not_mem_of_mem_split split

theorem ofDotted_segment {segment : String} (single : IsSegment segment) :
    ofDotted segment = ⟨[segment]⟩ := by
  rw [ofDotted, Text.split_of_not_mem single.2]
  simp [ofSegments, single.1]

/-- A segment that was read is read again as itself. -/
theorem ofDotted_of_mem {text segment : String} (member : segment ∈ (ofDotted text).segments) :
    ofDotted segment = ⟨[segment]⟩ :=
  ofDotted_segment (isSegment_of_mem member)

theorem flatMap_segments_ofDotted (text : String) :
    ((ofDotted text).segments.flatMap fun segment => (ofDotted segment).segments) =
      (ofDotted text).segments := by
  have each : ∀ segment ∈ (ofDotted text).segments, (ofDotted segment).segments = [segment] :=
    fun segment member => congrArg segments (ofDotted_of_mem member)
  rw [List.flatMap_congr each, List.flatMap_singleton']

theorem ofDotted_name (module : PackageModule) : ofDotted module.name = ⟨[module.name]⟩ := by
  cases module <;> decide

/-- A module below a package is read the same, be the package's name one segment of the path or
read into several. -/
theorem segments_ofDotted_below (package : String) (module : PackageModule) {path : ModulePath}
    (below : path = ofSegments [package, module.name] ∨
      path = (ofDotted package).join (ofDotted module.name)) :
    (ofDotted path.text).segments = (ofDotted package).segments ++ [module.name] := by
  rw [segments_ofDotted_text]
  rcases below with rfl | rfl
  · have named : module.name ≠ "" := by cases module <;> decide
    by_cases empty : package = ""
    · subst empty
      have nothing : (ofDotted "").segments = [] := by decide
      simp [ofSegments, named, nothing, ofDotted_name]
    · simp [ofSegments, named, empty, ofDotted_name]
  · rw [join, List.flatMap_append, flatMap_segments_ofDotted, ofDotted_name]
    simp [ofDotted_name]

end ModulePath

/-!
Paths that were read from dotted text, or put together from such paths. They
are the paths whose segments are neither empty nor dotted. Each is read back
from its text as it was, so the text says which path it is, and two imports
whose sources are spelled alike have one source.
-/

namespace ModulePath

inductive IsDotted : ModulePath → Prop
  | read (text : String) : IsDotted (ofDotted text)
  | join {path other : ModulePath} : IsDotted path → IsDotted other → IsDotted (path.join other)

theorem ofDotted_text {path : ModulePath} (single : ∀ segment ∈ path.segments, IsSegment segment) :
    ofDotted path.text = path := by
  obtain ⟨segments⟩ := path
  have each : ∀ segment ∈ segments, (ofDotted segment).segments = [segment] :=
    fun segment member => congrArg ModulePath.segments (ofDotted_segment (single segment member))
  have back : (ofDotted (text ⟨segments⟩)).segments = segments := by
    rw [segments_ofDotted_text, List.flatMap_congr each, List.flatMap_singleton']
  exact congrArg mk back

theorem isDotted_iff {path : ModulePath} :
    path.IsDotted ↔ ∀ segment ∈ path.segments, IsSegment segment := by
  constructor
  · intro dotted
    induction dotted with
    | read text => exact fun segment => isSegment_of_mem
    | join _ _ first second =>
        intro segment member
        rcases List.mem_append.1 member with before | after
        · exact first segment before
        · exact second segment after
  · intro single
    rw [← ofDotted_text single]
    exact IsDotted.read path.text

theorem IsDotted.ofDotted_text {path : ModulePath} (dotted : path.IsDotted) :
    ofDotted path.text = path :=
  ModulePath.ofDotted_text (isDotted_iff.1 dotted)

theorem IsDotted.text_eq_iff {path other : ModulePath} (first : path.IsDotted)
    (second : other.IsDotted) : path.text = other.text ↔ path = other := by
  constructor
  · intro shown
    rw [← first.ofDotted_text, ← second.ofDotted_text, shown]
  · exact congrArg ModulePath.text

theorem join_assoc (a b c : ModulePath) : (a.join b).join c = a.join (b.join c) :=
  congrArg mk (List.append_assoc a.segments b.segments c.segments)

theorem isEmpty_iff {path : ModulePath} : path.isEmpty ↔ path.segments = [] :=
  List.isEmpty_iff

theorem empty_join {empty : ModulePath} (nothing : empty.isEmpty) (path : ModulePath) :
    empty.join path = path := by
  rw [join, isEmpty_iff.1 nothing, List.nil_append]

theorem join_empty {empty : ModulePath} (nothing : empty.isEmpty) (path : ModulePath) :
    path.join empty = path := by
  rw [join, isEmpty_iff.1 nothing, List.append_nil]

/-- Reading takes a dot between two texts to one path below the other. The paths that come of
reading and joining are those of undotted, non-empty segments; each is read back from its text, so
two of them are equal exactly when their texts are, and two imports from such paths are the same
exactly when source text and name agree. Joining is associative, with the empty path, which the
empty text is read as, neutral on both sides. -/
theorem dottedPaths_lawful :
    (∀ before after : String,
      ofDotted (before ++ "." ++ after) = (ofDotted before).join (ofDotted after)) ∧
    (∀ path : ModulePath, path.IsDotted → ofDotted path.text = path ∧ "" ∉ path.segments) ∧
    (∀ path : ModulePath, path.IsDotted ↔ ∀ segment ∈ path.segments, IsSegment segment) ∧
    (∀ a b c : ModulePath, (a.join b).join c = a.join (b.join c)) ∧
    (ofDotted "").isEmpty ∧
    (∀ empty path : ModulePath, empty.isEmpty → empty.join path = path ∧ path.join empty = path) ∧
    (∀ path other : ModulePath, path.IsDotted → other.IsDotted →
      (path = other ↔ path.text = other.text)) ∧
    ∀ a b : ImportRecord, a.source.IsDotted → b.source.IsDotted →
      (a.order b = .eq ↔ a.source.text = b.source.text ∧ a.name = b.name) := by
  refine ⟨ofDotted_append, fun path dotted => ⟨dotted.ofDotted_text, fun member => ?_⟩,
    fun path => isDotted_iff, join_assoc, by decide,
    fun empty path nothing => ⟨empty_join nothing path, join_empty nothing path⟩,
    fun path other first second => (first.text_eq_iff second).symm, fun a b first second => ?_⟩
  · exact (isDotted_iff.1 dotted "" member).1 rfl
  · rw [ImportRecord.order_eq_iff, first.text_eq_iff second]

/-- A path with dots to spare, and one put together below a package. -/
theorem dottedPaths_respelled :
    IsDotted (ofDotted ".stubs_s3..type_defs.") ∧
    IsDotted ((ofDotted "stubs_s3").join (ofDotted "type_defs")) ∧
    (ofDotted ".stubs_s3..type_defs.").text =
      ((ofDotted "stubs_s3").join (ofDotted "type_defs")).text ∧
    ofDotted ".stubs_s3..type_defs." = (ofDotted "stubs_s3").join (ofDotted "type_defs") := by
  have first : IsDotted (ofDotted ".stubs_s3..type_defs.") := .read _
  have second : IsDotted ((ofDotted "stubs_s3").join (ofDotted "type_defs")) :=
    .join (.read _) (.read _)
  have shown : (ofDotted ".stubs_s3..type_defs.").text =
      ((ofDotted "stubs_s3").join (ofDotted "type_defs")).text := by decide
  obtain ⟨_, _, _, _, _, _, equal_iff, _⟩ := dottedPaths_lawful
  exact ⟨first, second, shown, (equal_iff _ _ first second).2 shown⟩

end ModulePath

end ServiceStubs
