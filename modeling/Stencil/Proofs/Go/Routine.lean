/-
The two routines of a function.

The parameters of a routine and the arguments of a call stand between commas, with spaces
around them as one likes, and a comma may also follow the last of them.  The parameters of a
routine and the variables that its statements define are in one scope, where Go does not
accept a name twice.  The first routine has a parameter `w` besides those of the signature,
and the second one defines `w` and `s`.

The call in the second routine passes the writer and then the name of each parameter.  For a
variadic parameter this is a slice, and the routine that is called would collect it into
another slice.  So the parameters are handed on unchanged just if none of them is variadic.
-/

import Stencil.Proofs.Go.Signature

namespace Stencil
namespace Go

/-- The items between commas, with nothing but spaces behind a comma at the end. -/
inductive Lists {α : Type} (Reads : Text → α → Prop) : Text → List α → Prop
  | nothing {blank : Text} (spaces : ∀ c ∈ blank, Text.isSpace c = true) : Lists Reads blank []
  | last {text : Text} {item : α} (reads : Reads text item) : Lists Reads text [item]
  | more {text rest : Text} {item : α} {items : List α} (reads : Reads text item)
      (later : Lists Reads rest items) : Lists Reads (text ++ ',' :: rest) (item :: items)

/-- A way of reading items that commas can separate and that spaces in front do not change. -/
structure Separable {α : Type} (Reads : Text → α → Prop) : Prop where
  unique : ∀ {text item other}, Reads text item → Reads text other → item = other
  unbroken : ∀ {text item}, Reads text item → ',' ∉ text
  filled : ∀ {text item}, Reads text item → ∃ c ∈ text, Text.isSpace c = false
  indented : ∀ {text item}, Reads text item → Reads (' ' :: text) item

section

variable {α : Type} {Reads : Text → α → Prop} {text rest : Text} {item : α} {items others : List α}

theorem unbroken_of_spaces (spaces : ∀ c ∈ text, Text.isSpace c = true) : ',' ∉ text := by
  intro present
  have space := spaces ',' present
  revert space
  decide

theorem Lists.indented (separable : Separable Reads) (lists : Lists Reads text items) :
    Lists Reads (' ' :: text) items := by
  cases lists with
  | nothing spaces => exact .nothing (List.forall_mem_cons.mpr ⟨by decide, spaces⟩)
  | last reads => exact .last (separable.indented reads)
  | more reads later => exact .more (separable.indented reads) later

theorem Lists.eq_nil_of_spaces (separable : Separable Reads) (lists : Lists Reads text items)
    (spaces : ∀ c ∈ text, Text.isSpace c = true) : items = [] := by
  cases lists with
  | nothing _ => rfl
  | last reads =>
      obtain ⟨c, member, filled⟩ := separable.filled reads
      rw [spaces c member] at filled
      cases filled
  | more reads later =>
      exact absurd (List.mem_append_right _ List.mem_cons_self) (unbroken_of_spaces spaces)

theorem Lists.eq_singleton_of_reads (separable : Separable Reads)
    (lists : Lists Reads text items) (reads : Reads text item) : items = [item] := by
  cases lists with
  | nothing spaces =>
      obtain ⟨c, member, filled⟩ := separable.filled reads
      rw [spaces c member] at filled
      cases filled
  | last other => rw [separable.unique other reads]
  | more other later =>
      exact absurd (List.mem_append_right _ List.mem_cons_self) (separable.unbroken reads)

theorem Lists.exists_of_comma (separable : Separable Reads)
    (lists : Lists Reads (text ++ ',' :: rest) items) (reads : Reads text item) :
    ∃ behind, items = item :: behind ∧ Lists Reads rest behind := by
  generalize whole : text ++ ',' :: rest = list at lists
  have comma : ',' ∈ list := by
    rw [← whole]
    exact List.mem_append_right _ List.mem_cons_self
  cases lists with
  | nothing spaces => exact absurd comma (unbroken_of_spaces spaces)
  | last other => exact absurd comma (separable.unbroken other)
  | @more otherText _ other behind otherReads later =>
      obtain ⟨texts, rests⟩ := Text.append_cons_inj_of_free (separable.unbroken reads)
        (separable.unbroken otherReads) whole
      rw [← texts] at otherReads
      rw [← rests] at later
      exact ⟨behind, by rw [separable.unique otherReads reads], later⟩

theorem Lists.map {β : Type} {Other : Text → β → Prop} {f : α → β}
    (reads : ∀ {text item}, Reads text item → Other text (f item))
    (lists : Lists Reads text items) : Lists Other text (items.map f) := by
  induction lists with
  | nothing spaces => exact .nothing spaces
  | last here => exact .last (reads here)
  | more here later ih => exact .more (reads here) ih

theorem Lists.unique (separable : Separable Reads) (first : Lists Reads text items)
    (second : Lists Reads text others) : items = others := by
  induction first generalizing others with
  | nothing spaces => exact (second.eq_nil_of_spaces separable spaces).symm
  | last reads => exact (second.eq_singleton_of_reads separable reads).symm
  | more reads later ih =>
      obtain ⟨behind, rfl, laterOther⟩ := second.exists_of_comma separable reads
      rw [ih laterOther]

end

def Writes (text : Text) (parameter : Parameter) : Prop :=
  parameter.print = text

theorem lists_printList (parameters : List Parameter) :
    Lists Writes (Parameter.printList parameters) parameters := by
  induction parameters with
  | nil => exact .nothing nofun
  | cons parameter others ih =>
      cases others with
      | nil =>
          rw [Parameter.printList, List.map_singleton, List.intercalate_singleton]
          exact .last rfl
      | cons next more =>
          rw [Parameter.printList, List.map_cons, List.map_cons, List.intercalate_cons_cons,
            List.append_assoc]
          exact .more rfl ih

def Declares (text name : Text) : Prop :=
  ∃ parameter : Parameter, parameter.print = text ∧ parameter.name = name

structure Passes (text argument : Text) : Prop where
  stripped : Text.strip Text.isSpace text = argument
  nonempty : argument ≠ []
  unbroken : ',' ∉ text

theorem Lists.declares {text : Text} {parameters : List Parameter}
    (lists : Lists Writes text parameters) :
    Lists Declares text (parameters.map Parameter.name) :=
  lists.map fun {_ parameter} written => ⟨parameter, written, rfl⟩

theorem Declares.firstWord {text name : Text} (declares : Declares text name) :
    Signature.firstWord text = name := by
  obtain ⟨parameter, rfl, rfl⟩ := declares
  exact (Signature.firstWord_eq_iff _ _).mpr parameter.firstWord_print

theorem separable_declares : Separable Declares where
  unique := fun first second => first.firstWord.symm.trans second.firstWord
  unbroken := by
    rintro _ _ ⟨parameter, rfl, -⟩
    exact parameter.print_unbroken
  filled := by
    rintro _ _ ⟨parameter, rfl, -⟩
    obtain ⟨c, rest, name⟩ := List.exists_cons_of_ne_nil parameter.nameNonempty
    have inName : c ∈ parameter.name := by
      rw [name]
      exact List.mem_cons_self
    exact ⟨c, List.mem_append_right _ (List.mem_append_left _ inName),
      (parameter.nameWord c inName).2⟩
  indented := by
    rintro _ _ ⟨parameter, rfl, rfl⟩
    exact ⟨{ parameter with
      lead := ' ' :: parameter.lead
      leadSpace := List.forall_mem_cons.mpr ⟨by decide, parameter.leadSpace⟩ }, rfl, rfl⟩

theorem separable_passes : Separable Passes where
  unique := fun first second => first.stripped.symm.trans second.stripped
  unbroken := Passes.unbroken
  filled := by
    intro text argument passes
    by_cases spaces : ∀ c ∈ text, Text.isSpace c = true
    · have stripped := passes.stripped
      rw [Text.strip, List.dropWhile_eq_nil_iff.mpr spaces] at stripped
      exact absurd stripped.symm passes.nonempty
    · simpa using spaces
  indented := by
    intro text argument passes
    refine ⟨?_, passes.nonempty, ?_⟩
    · rw [Text.strip, List.dropWhile_cons_of_pos (by decide)]
      exact passes.stripped
    · rw [List.mem_cons, not_or]
      exact ⟨by decide, passes.unbroken⟩

theorem passes_name (parameter : Parameter) : Passes parameter.name parameter.name := by
  have spaceless : ∀ c ∈ parameter.name, Text.isSpace c = false :=
    fun c member => (parameter.nameWord c member).2
  have begins : parameter.name.dropWhile Text.isSpace = parameter.name :=
    Text.dropWhile_eq_self fun c first => spaceless c (List.mem_of_head? first)
  have ends : Text.trimEnd Text.isSpace (parameter.name ++ []) = parameter.name :=
    Text.trimEnd_append_of_ends (fun c last => spaceless c (List.mem_of_getLast? last))
      (List.forall_mem_nil _)
  rw [List.append_nil] at ends
  refine ⟨?_, parameter.nameNonempty, fun comma => (parameter.nameWord ',' comma).1 rfl⟩
  rw [Text.strip, begins, ends]

theorem Declares.passes {text name : Text} (declares : Declares text name) : Passes name name := by
  obtain ⟨parameter, -, rfl⟩ := declares
  exact passes_name parameter

/-- The names of the parameters that are listed are the arguments that are listed where the
names are joined. -/
theorem lists_argNames {args : Text} {names : List Text} (declares : Lists Declares args names) :
    Lists Passes (", ".toList.intercalate (Signature.namesOf args)) names := by
  induction declares with
  | nothing spaces =>
      rw [Signature.namesOf_of_unbroken (unbroken_of_spaces spaces),
        Signature.firstWord_of_spaces spaces]
      exact .nothing nofun
  | last declares =>
      rw [Signature.namesOf_of_unbroken (separable_declares.unbroken declares),
        declares.firstWord, List.intercalate_singleton]
      exact .last declares.passes
  | @more text rest name names declares later ih =>
      rw [Signature.intercalate_namesOf_append (separable_declares.unbroken declares),
        declares.firstWord]
      exact .more declares.passes (ih.indented separable_passes)

/-! ### What the routines declare -/

/-- A statement in the body of a routine.  The code of the template is taken as it is, and what
it declares of its own accord is not looked at. -/
inductive Statement where
  | define (target value : Text)
  | call (routine arguments : Text)
  | give (value : Text)
  | code (lines : Text)

namespace Statement

def spelling : Statement → Text
  | define target value => '\t' :: target ++ " := ".toList ++ value ++ ['\n']
  | call routine arguments => '\t' :: routine ++ "(".toList ++ arguments ++ ")\n".toList
  | give value => "\treturn ".toList ++ value ++ ['\n']
  | code lines => lines

@[simp]
theorem spelling_define (target value : Text) :
    (define target value).spelling = '\t' :: target ++ " := ".toList ++ value ++ ['\n'] :=
  rfl

@[simp]
theorem spelling_call (routine arguments : Text) :
    (call routine arguments).spelling =
      '\t' :: routine ++ "(".toList ++ arguments ++ ")\n".toList :=
  rfl

@[simp]
theorem spelling_give (value : Text) :
    (give value).spelling = "\treturn ".toList ++ value ++ ['\n'] :=
  rfl

@[simp]
theorem spelling_code (lines : Text) : (code lines).spelling = lines :=
  rfl

def defined? : Statement → Option Text
  | define target _ => some target
  | _ => none

end Statement

structure Routine where
  name : Text
  parameters : Text
  result : Text
  body : List Statement

namespace Routine

def spelling (routine : Routine) : Text :=
  "func ".toList ++ routine.name ++ "(".toList ++ routine.parameters ++ ")".toList ++
    routine.result ++ " \x7b\n".toList ++ routine.body.flatMap Statement.spelling ++
      "\x7d\n".toList

def Scope (routine : Routine) (names : List Text) : Prop :=
  ∃ parameters, Lists Declares routine.parameters parameters ∧
    names = parameters ++ routine.body.filterMap Statement.defined?

def DeclaresOnce (routine : Routine) : Prop :=
  ∃ names, routine.Scope names ∧ names.Nodup

end Routine

def streaming (runtime : Text) (signature : Signature) (lines : Text) : Routine where
  name := signature.name ++ "Stream".toList
  parameters := "w *".toList ++ runtime ++ ".Writer, ".toList ++ signature.args
  result := []
  body := [.code lines]

def convenience (runtime : Text) (signature : Signature) : Routine where
  name := signature.name
  parameters := signature.args
  result := " string".toList
  body := [
    .define "w".toList (runtime ++ ".AcquireWriter()".toList),
    .call (signature.name ++ "Stream".toList) ("w, ".toList ++ signature.argNames),
    .define "s".toList "w.String()".toList,
    .call (runtime ++ ".ReleaseWriter".toList) "w".toList,
    .give "s".toList]

theorem funcEnd_spelling (runtime : Text) (signature : Signature) :
    funcEnd runtime signature =
      "\x7d\n\n".toList ++ (convenience runtime signature).spelling := by
  unfold funcEnd convenience Routine.spelling
  simp

/-- The code for a function is the code of the two routines. -/
theorem function_spelling (runtime : Text) (signature : Signature) (lines : Text) :
    funcStart runtime signature ++ lines ++ funcEnd runtime signature =
      "\n".toList ++ (streaming runtime signature lines).spelling ++ "\n".toList ++
        (convenience runtime signature).spelling := by
  rw [funcEnd_spelling]
  unfold funcStart streaming Routine.spelling
  simp

theorem Routine.scope_iff {routine : Routine} {parameters : List Text}
    (declares : Lists Declares routine.parameters parameters) (names : List Text) :
    routine.Scope names ↔
      names = parameters ++ routine.body.filterMap Statement.defined? := by
  constructor
  · rintro ⟨others, otherDeclares, same⟩
    rw [otherDeclares.unique separable_declares declares] at same
    exact same
  · intro same
    exact ⟨parameters, declares, same⟩

theorem Routine.declaresOnce_iff {routine : Routine} {names : List Text}
    (scope : ∀ others, routine.Scope others ↔ others = names) :
    routine.DeclaresOnce ↔ names.Nodup := by
  constructor
  · rintro ⟨others, inScope, apart⟩
    rw [(scope others).mp inScope] at apart
    exact apart
  · intro apart
    exact ⟨names, (scope names).mpr rfl, apart⟩

section

variable {runtime : Text} {signature : Signature} {names : List Text}

def writer (runtime : Text) (package : ',' ∉ runtime) : Parameter :=
  Parameter.spaced "w".toList ("*".toList ++ runtime ++ ".Writer".toList) (by decide)
    (by simp [Text.isSpace]) (by simp [package])

theorem streaming_scope_iff (package : ',' ∉ runtime)
    (declares : Lists Declares signature.args names) (lines : Text) (others : List Text) :
    (streaming runtime signature lines).Scope others ↔ others = "w".toList :: names := by
  have written : (streaming runtime signature lines).parameters =
      (writer runtime package).print ++ ',' :: ' ' :: signature.args := by
    unfold streaming writer Parameter.print Parameter.spaced
    simp
  have all : Lists Declares (streaming runtime signature lines).parameters
      ("w".toList :: names) := by
    rw [written]
    exact .more ⟨writer runtime package, rfl, rfl⟩ (declares.indented separable_declares)
  rw [Routine.scope_iff all]
  exact Iff.of_eq (congrArg _ (List.append_nil _))

theorem convenience_scope_iff (runtime : Text) (declares : Lists Declares signature.args names)
    (others : List Text) :
    (convenience runtime signature).Scope others ↔
      others = names ++ ["w".toList, "s".toList] := by
  have listed : Lists Declares (convenience runtime signature).parameters names := declares
  exact Routine.scope_iff listed others

end

/-- The routines of a function declare the parameters of its signature and, the first one in
front of them and the second one behind, names of their own.  If the parameters are
distinct, no name is declared twice just if no parameter has one of these names.  The runtime
names a package, so there is no comma in it. -/
theorem function_declares_once_iff (spelled : SignatureSpelling) {names : List Text}
    (declares : Lists Declares spelled.args names) (distinct : names.Nodup) {runtime : Text}
    (package : ',' ∉ runtime) (lines : Text) :
    let signature := spelled.signature
    let first := streaming runtime signature lines
    let second := convenience runtime signature
    Signature.split spelled.spelling = .ok signature ∧
      funcStart runtime signature ++ lines ++ funcEnd runtime signature =
        "\n".toList ++ first.spelling ++ "\n".toList ++ second.spelling ∧
      (∀ others, first.Scope others ↔ others = "w".toList :: names) ∧
      (∀ others, second.Scope others ↔ others = names ++ ["w".toList, "s".toList]) ∧
      (first.DeclaresOnce ↔ "w".toList ∉ names) ∧
      (second.DeclaresOnce ↔ "w".toList ∉ names ∧ "s".toList ∉ names) := by
  intro signature first second
  have firstScope (others : List Text) : first.Scope others ↔ others = "w".toList :: names :=
    streaming_scope_iff package declares lines others
  have secondScope (others : List Text) :
      second.Scope others ↔ others = names ++ ["w".toList, "s".toList] :=
    convenience_scope_iff runtime declares others
  refine ⟨Signature.split_spelling spelled, function_spelling runtime signature lines,
    firstScope, secondScope, ?_, ?_⟩
  · rw [Routine.declaresOnce_iff firstScope, List.nodup_cons, and_iff_left distinct]
  · rw [Routine.declaresOnce_iff secondScope, List.nodup_append]
    constructor
    · rintro ⟨-, -, apart⟩
      exact ⟨fun present => apart _ present _ List.mem_cons_self rfl,
        fun present => apart _ present _ (List.mem_cons_of_mem _ List.mem_cons_self) rfl⟩
    · rintro ⟨noWriter, noString⟩
      refine ⟨distinct, by decide, ?_⟩
      intro name present other defined
      rcases List.mem_pair.mp defined with rfl | rfl
      · exact fun same => noWriter (same ▸ present)
      · exact fun same => noString (same ▸ present)

def pageSignature : SignatureSpelling where
  name := "Page".toList
  gap := " ".toList
  args := Parameter.printList Parameter.pageParameters
  tail := []
  nameOpen := by decide
  nameEnds := by simp [Text.isSpace]
  gapSpace := by simp [Text.isSpace]
  tailOpen := List.not_mem_nil

theorem function_declares_page_parameters_once :
    let names := ["title".toList, "label".toList]
    Lists Declares pageSignature.args names ∧ names.Nodup ∧ ',' ∉ defaultRuntime ∧
      (streaming defaultRuntime pageSignature.signature []).DeclaresOnce ∧
      (convenience defaultRuntime pageSignature.signature).DeclaresOnce := by
  intro names
  have declares : Lists Declares pageSignature.args names :=
    (lists_printList Parameter.pageParameters).declares
  have distinct : names.Nodup := by decide
  have package : ',' ∉ defaultRuntime := by decide
  obtain ⟨-, -, -, -, first, second⟩ :=
    function_declares_once_iff pageSignature declares distinct package []
  exact ⟨declares, distinct, package, first.mpr (by decide), second.mpr (by decide)⟩

/-- A parameter `s` is declared again by the second routine. -/
theorem convenience_redeclares_parameter :
    let signature : Signature := ⟨"B".toList, "s string".toList, "s".toList⟩
    let second := convenience defaultRuntime signature
    Signature.split "B(s string)".toList = .ok signature ∧
      Lists Declares signature.args ["s".toList] ∧ ["s".toList].Nodup ∧
      funcEnd defaultRuntime signature = "\x7d\n\n".toList ++ second.spelling ∧
      second.Scope ["s".toList, "w".toList, "s".toList] ∧ ¬ second.DeclaresOnce := by
  intro signature second
  let parameter : Parameter :=
    .spaced "s".toList "string".toList (by decide) (by simp [Text.isSpace]) (by decide)
  have declares : Lists Declares signature.args ["s".toList] := .last ⟨parameter, rfl, rfl⟩
  have scope := convenience_scope_iff defaultRuntime declares
  refine ⟨by decide, declares, by decide, funcEnd_spelling _ _, (scope _).mpr rfl, ?_⟩
  rw [Routine.declaresOnce_iff scope]
  decide

end Go

/-! ### What the second routine hands on -/

namespace Parameter

def dots : Text := "...".toList

def variadic (parameter : Parameter) : Bool :=
  dots.isPrefixOf (parameter.type.dropWhile Text.isSpace)

def forwarded (parameter : Parameter) : Text :=
  if parameter.variadic then parameter.name ++ dots else parameter.name

theorem forwarded_eq_name_iff (parameter : Parameter) :
    parameter.forwarded = parameter.name ↔ parameter.variadic = false := by
  unfold forwarded
  cases parameter.variadic with
  | false => simp
  | true => simp [dots]

theorem map_forwarded_eq_iff (parameters : List Parameter) :
    parameters.map forwarded = parameters.map name ↔
      ∀ parameter ∈ parameters, parameter.variadic = false := by
  rw [List.map_inj_left]
  exact forall₂_congr fun parameter _ => parameter.forwarded_eq_name_iff

end Parameter

namespace Go

open Parameter

/-- What a variable holds: a value of its type, or the slice that a variadic parameter is
inside of its routine. -/
inductive Held (α : Type) where
  | value (value : α)
  | slice (elements : List (Held α))

theorem Held.ne_slice_of_mem {α : Type} {held : Held α} {elements : List (Held α)}
    (member : held ∈ elements) : held ≠ .slice elements := by
  intro same
  have sizes := congrArg sizeOf same
  have smaller := List.sizeOf_lt_of_mem member
  rw [Held.slice.sizeOf_spec] at sizes
  omega

/-- What the parameters of a routine hold when it is called with some arguments.  A variadic
parameter holds a new slice of all the arguments that are left, unless there is just one and
dots follow it. -/
inductive Receives {α : Type} (holds : Text → Held α) :
    List Parameter → List Text → List (Held α) → Prop
  | nothing : Receives holds [] [] []
  | ordinary {parameter : Parameter} {parameters : List Parameter} {argument : Text}
      {arguments : List Text} {received : List (Held α)} (ordinary : parameter.variadic = false)
      (plain : ¬ dots <:+ argument) (later : Receives holds parameters arguments received) :
      Receives holds (parameter :: parameters) (argument :: arguments)
        (holds argument :: received)
  | spread {parameter : Parameter} {argument : Text} (variadic : parameter.variadic = true) :
      Receives holds [parameter] [argument ++ dots] [holds argument]
  | collected {parameter : Parameter} {arguments : List Text}
      (variadic : parameter.variadic = true)
      (plain : ∀ argument ∈ arguments, ¬ dots <:+ argument) :
      Receives holds [parameter] arguments [.slice (arguments.map holds)]

section

variable {α : Type} {holds : Text → Held α}

/-- An argument without dots is received as it is only by an ordinary parameter. -/
theorem Receives.of_cons {parameter : Parameter} {parameters : List Parameter} {argument : Text}
    {arguments : List Text} {received : List (Held α)} (plain : ¬ dots <:+ argument)
    (receives : Receives holds (parameter :: parameters) (argument :: arguments)
      (holds argument :: received)) :
    parameter.variadic = false ∧ Receives holds parameters arguments received := by
  generalize holding : holds argument = held at receives
  cases receives with
  | ordinary ordinary _ later => exact ⟨ordinary, later⟩
  | spread variadic => exact absurd (List.suffix_append _ _) plain
  | collected variadic _ =>
      exact absurd holding (Held.ne_slice_of_mem (List.mem_map_of_mem List.mem_cons_self))

/-- Called with their own names, the parameters hold what they held just if none of them is
variadic. -/
theorem receives_names_iff (holds : Text → Held α) {parameters : List Parameter}
    (identifiers : ∀ parameter ∈ parameters, '.' ∉ parameter.name) :
    Receives holds parameters (parameters.map name) ((parameters.map name).map holds) ↔
      ∀ parameter ∈ parameters, parameter.variadic = false := by
  induction parameters with
  | nil => exact ⟨fun _ => nofun, fun _ => .nothing⟩
  | cons parameter others ih =>
      rw [List.forall_mem_cons] at identifiers
      have plain : ¬ dots <:+ parameter.name := fun ends =>
        identifiers.1 (ends.subset List.mem_cons_self)
      rw [List.forall_mem_cons, ← ih identifiers.2]
      constructor
      · exact Receives.of_cons plain
      · rintro ⟨ordinary, later⟩
        exact .ordinary ordinary plain later

end

/-- The second routine calls the first one with its writer and the names of its parameters.
These are the arguments that hand the parameters on just if none of them is variadic, and
then the parameters of the first routine hold the same as those of the second one. -/
theorem convenience_forwards_iff (spelled : SignatureSpelling) {parameters : List Parameter}
    (written : Lists Writes spelled.args parameters)
    (identifiers : ∀ parameter ∈ parameters, '.' ∉ parameter.name) (runtime : Text)
    {α : Type} (holds : Text → Held α) :
    let signature := spelled.signature
    let second := convenience runtime signature
    let arguments := "w, ".toList ++ signature.argNames
    let names := parameters.map name
    Signature.split spelled.spelling = .ok signature ∧
      funcEnd runtime signature = "\x7d\n\n".toList ++ second.spelling ∧
      .call (signature.name ++ "Stream".toList) arguments ∈ second.body ∧
      (∀ passed, Lists Passes arguments passed ↔ passed = "w".toList :: names) ∧
      (Lists Passes arguments ("w".toList :: parameters.map forwarded) ↔
        ∀ parameter ∈ parameters, parameter.variadic = false) ∧
      (Receives holds parameters names (names.map holds) ↔
        ∀ parameter ∈ parameters, parameter.variadic = false) := by
  intro signature second arguments names
  have listed : Lists Passes arguments ("w".toList :: names) := by
    have writer : Passes "w".toList "w".toList := ⟨by decide, by decide, by decide⟩
    exact .more writer ((lists_argNames written.declares).indented separable_passes)
  have passes (passed : List Text) :
      Lists Passes arguments passed ↔ passed = "w".toList :: names := by
    constructor
    · intro other
      exact other.unique separable_passes listed
    · rintro rfl
      exact listed
  refine ⟨Signature.split_spelling spelled, funcEnd_spelling runtime signature,
    List.mem_cons_of_mem _ List.mem_cons_self, passes, ?_, receives_names_iff holds identifiers⟩
  rw [passes, List.cons_inj_right]
  exact map_forwarded_eq_iff parameters

theorem convenience_forwards_page_parameters :
    let second := convenience defaultRuntime pageSignature.signature
    let arguments := "w, title, label".toList
    Lists Writes pageSignature.args pageParameters ∧
      (∀ parameter ∈ pageParameters, '.' ∉ parameter.name) ∧
      .call "PageStream".toList arguments ∈ second.body ∧
      Lists Passes arguments ["w".toList, "title".toList, "label".toList] ∧
      Lists Passes arguments ("w".toList :: pageParameters.map forwarded) := by
  intro second arguments
  have written : Lists Writes pageSignature.args pageParameters :=
    lists_printList pageParameters
  have identifiers : ∀ parameter ∈ pageParameters, '.' ∉ parameter.name := by decide
  obtain ⟨-, -, called, passes, forwards, -⟩ :=
    convenience_forwards_iff pageSignature written identifiers defaultRuntime
      fun _ => Held.value ()
  exact ⟨written, identifiers, called, (passes _).mpr rfl, forwards.mpr (by decide)⟩

def partsParameter : Parameter :=
  .spaced "parts".toList "...string".toList (by decide) (by simp [Text.isSpace]) (by decide)

/-- It is passed without dots, so that the first routine gets it in a slice. -/
theorem convenience_drops_dots :
    let signature : Signature := ⟨"Join".toList, "parts ...string".toList, "parts".toList⟩
    let second := convenience defaultRuntime signature
    Signature.split "Join(parts ...string)".toList = .ok signature ∧
      Lists Writes signature.args [partsParameter] ∧ partsParameter.variadic = true ∧
      funcEnd defaultRuntime signature = "\x7d\n\n".toList ++ second.spelling ∧
      .call "JoinStream".toList "w, parts".toList ∈ second.body ∧
      Lists Passes "w, parts".toList ["w".toList, "parts".toList] ∧
      ¬ Lists Passes "w, parts".toList ["w".toList, partsParameter.forwarded] ∧
      ∀ holds : Text → Held Nat,
        ¬ Receives holds [partsParameter] ["parts".toList] [holds "parts".toList] ∧
          Receives holds [partsParameter] [partsParameter.forwarded] [holds "parts".toList] := by
  intro signature second
  have writer : Passes "w".toList "w".toList := ⟨by decide, by decide, by decide⟩
  have parts : Passes " parts".toList "parts".toList := ⟨by decide, by decide, by decide⟩
  have passes : Lists Passes "w, parts".toList ["w".toList, "parts".toList] :=
    .more writer (.last parts)
  refine ⟨by decide, .last rfl, by decide, funcEnd_spelling _ _,
    List.mem_cons_of_mem _ List.mem_cons_self, passes, ?_, ?_⟩
  · intro other
    have same := other.unique separable_passes passes
    revert same
    decide
  · intro holds
    refine ⟨?_, .spread (by decide)⟩
    intro receives
    have ordinary := (receives.of_cons (by decide)).1
    revert ordinary
    decide

end Go
end Stencil
