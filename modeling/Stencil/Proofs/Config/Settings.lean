/-
What a document says about the settings, and where those in force come from.

A document gives a configuration if it is a mapping, names its entries by scalars, lists no
setting twice and has for each a value that the setting can take.

A file that is named must be readable and well formed, and then the one in the home directory
plays no part.  Where none is named, the file in the home directory counts if it can be read
and is well formed, and is passed over otherwise.  Each setting has the value that the options
give it, or else the one that the file lists, or else its default.
-/

import Stencil.Program

namespace Stencil

namespace Config

theorem Key.ofName?_eq_some_iff {text : Text} {key : Key} :
    Key.ofName? text = some key ↔ text = key.name := by
  constructor
  · intro found
    have named := List.find?_some (p := fun key : Key => decide (key.name = text)) found
    exact (of_decide_eq_true named).symm
  · rintro rfl
    cases key <;> decide

def flagWord (flag : Bool) : Text :=
  if flag then "true".toList else "false".toList

theorem eq_of_render_eq {first second : Config}
    (same : ∀ key, first.render key = second.render key) : first = second := by
  obtain ⟨runtime, runtimeImport, extension, header⟩ := first
  obtain ⟨otherRuntime, otherImport, otherExtension, otherHeader⟩ := second
  have flagWord_injective : ∀ flag other, flagWord flag = flagWord other → flag = other := by
    decide
  rw [show runtime = otherRuntime from same .runtime,
    show runtimeImport = otherImport from same .runtimeImport,
    show extension = otherExtension from same .extension,
    flagWord_injective header otherHeader (same .header)]

def Key.written? (key : Key) (value : Yaml.Scalar) : Option Text :=
  match key with
  | .header => (flag? value).map flagWord
  | _ => some value.text

theorem render_set? {config result : Config} {key : Key} {value : Yaml.Scalar}
    (isSet : config.set? key value = some result) :
    ∃ text, key.written? value = some text ∧
      ∀ other, result.render other = if other = key then text else config.render other := by
  cases key with
  | header =>
      obtain ⟨flag, isFlag, rfl⟩ := Option.map_eq_some_iff.mp isSet
      exact ⟨flagWord flag, by rw [Key.written?, isFlag]; rfl, fun other => by cases other <;> rfl⟩
  | runtime | runtimeImport | extension =>
      cases isSet
      exact ⟨value.text, rfl, fun other => by cases other <;> rfl⟩

theorem exists_set? {key : Key} {value : Yaml.Scalar} (written : (key.written? value).isSome)
    (config : Config) : ∃ result, config.set? key value = some result := by
  cases key with
  | header =>
      rw [Key.written?, Option.isSome_map] at written
      obtain ⟨flag, isFlag⟩ := Option.isSome_iff_exists.mp written
      exact ⟨_, Option.map_eq_some_iff.mpr ⟨flag, isFlag, rfl⟩⟩
  | runtime | runtimeImport | extension => exact ⟨_, rfl⟩

end Config

namespace Yaml.Document

open Config (Key)

variable (document : Document)

/-- The entries of a document that is a mapping; a document without a value has none. -/
def entries? : Option (List (Node × Node)) :=
  match document.root with
  | none => some []
  | some (.scalar scalar) => if scalar.style = .plain ∧ scalar.text = [] then some [] else none
  | some (.mapping entries) => some entries
  | some _ => none

def keyOf? (entry : Node × Node) : Option Key :=
  (document.scalar? entry.1).bind fun name => Key.ofName? name.text

def valueOf? (key : Key) (entry : Node × Node) : Option Text :=
  (document.scalar? entry.2).bind key.written?

def listed? (entries : List (Node × Node)) (key : Key) : Option Text :=
  (entries.find? fun entry => document.keyOf? entry == some key).bind (document.valueOf? key)

/-- Entries that list settings properly: they are named by scalars, and no setting occurs twice,
is excluded or has a value that it cannot take. -/
structure Lists (excluded : List Key) (entries : List (Node × Node)) : Prop where
  named : ∀ entry ∈ entries, (document.scalar? entry.1).isSome
  once : (entries.filterMap document.keyOf?).Nodup
  apart : ∀ key ∈ entries.filterMap document.keyOf?, key ∉ excluded
  valued : ∀ entry ∈ entries, ∀ key, document.keyOf? entry = some key →
    (document.valueOf? key entry).isSome

variable {document} {excluded : List Key} {entry : Node × Node} {entries : List (Node × Node)}
  {key : Key}

theorem lists_cons_of_foreign (named : (document.scalar? entry.1).isSome)
    (foreign : document.keyOf? entry = none) :
    document.Lists excluded (entry :: entries) ↔ document.Lists excluded entries := by
  have keys : (entry :: entries).filterMap document.keyOf? = entries.filterMap document.keyOf? :=
    List.filterMap_cons_none foreign
  constructor
  · intro lists
    refine ⟨(List.forall_mem_cons.mp lists.named).2, ?_, ?_,
      (List.forall_mem_cons.mp lists.valued).2⟩
    · rw [← keys]
      exact lists.once
    · rw [← keys]
      exact lists.apart
  · intro lists
    refine ⟨List.forall_mem_cons.mpr ⟨named, lists.named⟩, ?_, ?_,
      List.forall_mem_cons.mpr ⟨fun key isKey => ?_, lists.valued⟩⟩
    · rw [keys]
      exact lists.once
    · rw [keys]
      exact lists.apart
    · cases foreign.symm.trans isKey

theorem lists_cons_of_key (isKey : document.keyOf? entry = some key) :
    document.Lists excluded (entry :: entries) ↔
      key ∉ excluded ∧ (document.valueOf? key entry).isSome ∧
        document.Lists (key :: excluded) entries := by
  have keys : (entry :: entries).filterMap document.keyOf? =
      key :: entries.filterMap document.keyOf? := List.filterMap_cons_some isKey
  have named : (document.scalar? entry.1).isSome := by
    obtain ⟨name, isName, -⟩ := Option.bind_eq_some_iff.mp isKey
    exact Option.isSome_of_mem isName
  constructor
  · rintro ⟨allNamed, once, apart, valued⟩
    rw [keys] at once apart
    obtain ⟨fresh, onceLater⟩ := List.nodup_cons.mp once
    obtain ⟨here, apartLater⟩ := List.forall_mem_cons.mp apart
    refine ⟨here, valued entry List.mem_cons_self key isKey,
      (List.forall_mem_cons.mp allNamed).2, onceLater, ?_,
      (List.forall_mem_cons.mp valued).2⟩
    intro other present
    exact List.not_mem_cons_of_ne_of_not_mem (ne_of_mem_of_not_mem present fresh)
      (apartLater other present)
  · rintro ⟨here, valued, lists⟩
    refine ⟨List.forall_mem_cons.mpr ⟨named, lists.named⟩, ?_, ?_,
      List.forall_mem_cons.mpr ⟨fun other isOther => ?_, lists.valued⟩⟩
    · rw [keys]
      exact List.nodup_cons.mpr
        ⟨fun present => lists.apart key present List.mem_cons_self, lists.once⟩
    · rw [keys]
      exact List.forall_mem_cons.mpr
        ⟨here, fun other present => List.not_mem_of_not_mem_cons (lists.apart other present)⟩
    · cases isKey.symm.trans isOther
      exact valued

theorem listed?_cons_of_foreign (foreign : document.keyOf? entry = none) :
    document.listed? (entry :: entries) = document.listed? entries := by
  funext key
  rw [listed?, List.find?_cons, foreign]
  rfl

theorem listed?_cons_of_key (isKey : document.keyOf? entry = some key) (other : Key) :
    document.listed? (entry :: entries) other =
      if other = key then document.valueOf? key entry else document.listed? entries other := by
  rw [listed?, List.find?_cons, isKey]
  by_cases same : other = key
  · rw [if_pos same, same]
    simp
  · have differs : (some key == some other) = false :=
      beq_false_of_ne fun equal => same (Option.some.inj equal).symm
    rw [if_neg same, differs]
    rfl

theorem Lists.listed?_eq_none (lists : document.Lists excluded entries)
    (isExcluded : key ∈ excluded) : document.listed? entries key = none := by
  rw [listed?, List.find?_eq_none.mpr, Option.bind_none]
  intro entry present names
  exact lists.apart key (List.mem_filterMap.mpr ⟨entry, present, eq_of_beq names⟩) isExcluded

end Yaml.Document

namespace Config

open Yaml (Node)

section Entries

variable {document : Yaml.Document} {excluded : List Key} {entry : Node × Node}
  {entries : List (Node × Node)} {config result : Config} {key : Key}

theorem ofPairs?_cons_of_unnamed (unnamed : document.scalar? entry.1 = none) :
    ofPairs? document config excluded (entry :: entries) = none := by
  rw [ofPairs?, unnamed]

theorem ofPairs?_cons_of_foreign (named : (document.scalar? entry.1).isSome)
    (foreign : document.keyOf? entry = none) :
    ofPairs? document config excluded (entry :: entries) =
      ofPairs? document config excluded entries := by
  obtain ⟨name, isName⟩ := Option.isSome_iff_exists.mp named
  rw [Yaml.Document.keyOf?, isName, Option.bind_some] at foreign
  rw [ofPairs?, isName]
  dsimp only
  rw [foreign]

theorem ofPairs?_cons_of_key (isKey : document.keyOf? entry = some key) :
    ofPairs? document config excluded (entry :: entries) =
      if key ∈ excluded then none
      else ((document.scalar? entry.2).bind (config.set? key)).bind fun config =>
        ofPairs? document config (key :: excluded) entries := by
  obtain ⟨name, isName, found⟩ := Option.bind_eq_some_iff.mp isKey
  rw [ofPairs?, isName]
  dsimp only
  rw [found]
  dsimp only
  by_cases seen : key ∈ excluded
  · simp [seen]
  · cases value : (document.scalar? entry.2).bind (config.set? key) with
    | none => simp [seen]
    | some config => simp [seen]

theorem render_of_bind_set?
    (isSet : (document.scalar? entry.2).bind (config.set? key) = some result) :
    ∃ text, document.valueOf? key entry = some text ∧
      ∀ other, result.render other = if other = key then text else config.render other := by
  obtain ⟨value, isValue, isSet⟩ := Option.bind_eq_some_iff.mp isSet
  obtain ⟨text, written, rendered⟩ := render_set? isSet
  refine ⟨text, ?_, rendered⟩
  rw [Yaml.Document.valueOf?, isValue]
  exact written

theorem exists_bind_set? (valued : (document.valueOf? key entry).isSome) (config : Config) :
    ∃ result, (document.scalar? entry.2).bind (config.set? key) = some result := by
  obtain ⟨text, isText⟩ := Option.isSome_iff_exists.mp valued
  obtain ⟨value, isValue, written⟩ := Option.bind_eq_some_iff.mp isText
  rw [isValue]
  exact exists_set? (Option.isSome_of_mem written) config

theorem lists_of_ofPairs? (read : ofPairs? document config excluded entries = some result) :
    document.Lists excluded entries ∧
      ∀ key, result.render key = (document.listed? entries key).getD (config.render key) := by
  induction entries generalizing config excluded with
  | nil =>
      cases read
      exact ⟨⟨nofun, List.nodup_nil, nofun, nofun⟩, fun _ => rfl⟩
  | cons entry entries ih =>
      cases named : document.scalar? entry.1 with
      | none => cases (ofPairs?_cons_of_unnamed named).symm.trans read
      | some name =>
          have named := Option.isSome_of_mem named
          cases names : document.keyOf? entry with
          | none =>
              rw [ofPairs?_cons_of_foreign named names] at read
              rw [Yaml.Document.lists_cons_of_foreign named names,
                Yaml.Document.listed?_cons_of_foreign names]
              exact ih read
          | some key =>
              rw [ofPairs?_cons_of_key names] at read
              split at read
              · cases read
              · rename_i fresh
                obtain ⟨changed, isSet, later⟩ := Option.bind_eq_some_iff.mp read
                obtain ⟨lists, rendered⟩ := ih later
                obtain ⟨text, written, changes⟩ := render_of_bind_set? isSet
                refine ⟨(Yaml.Document.lists_cons_of_key names).mpr
                  ⟨fresh, Option.isSome_of_mem written, lists⟩, fun other => ?_⟩
                rw [rendered, changes, Yaml.Document.listed?_cons_of_key names]
                split
                · rename_i same
                  rw [same, lists.listed?_eq_none List.mem_cons_self, written]
                  rfl
                · rfl

theorem exists_ofPairs? (lists : document.Lists excluded entries) (config : Config) :
    ∃ result, ofPairs? document config excluded entries = some result := by
  induction entries generalizing config excluded with
  | nil => exact ⟨config, rfl⟩
  | cons entry entries ih =>
      have named := lists.named entry List.mem_cons_self
      cases names : document.keyOf? entry with
      | none =>
          rw [ofPairs?_cons_of_foreign named names]
          exact ih ((Yaml.Document.lists_cons_of_foreign named names).mp lists) config
      | some key =>
          obtain ⟨fresh, valued, later⟩ := (Yaml.Document.lists_cons_of_key names).mp lists
          obtain ⟨changed, isSet⟩ := exists_bind_set? valued config
          rw [ofPairs?_cons_of_key names, if_neg fresh, isSet]
          exact ih later changed

theorem ofPairs?_eq_some_iff :
    ofPairs? document config excluded entries = some result ↔
      document.Lists excluded entries ∧
        ∀ key, result.render key = (document.listed? entries key).getD (config.render key) := by
  constructor
  · exact lists_of_ofPairs?
  · rintro ⟨lists, rendered⟩
    obtain ⟨other, read⟩ := exists_ofPairs? lists config
    have same : other = result := eq_of_render_eq fun key =>
      ((lists_of_ofPairs? read).2 key).trans (rendered key).symm
    rw [read, same]

end Entries

theorem ofDocument?_eq (document : Yaml.Document) :
    ofDocument? document = document.entries?.bind (ofPairs? document default []) := by
  rw [ofDocument?, Yaml.Document.entries?]
  match document.root with
  | none => rfl
  | some (.scalar scalar) =>
      dsimp only
      split <;> rfl
  | some (.mapping pairs) => rfl
  | some (.sequence items) => rfl
  | some (.alias number) => rfl

end Config

/-! ### Where settings come from -/

namespace Config

end Config

namespace Workspace

variable (workspace : Workspace)

variable {workspace} {path : Text}

end Workspace

namespace Options

variable (options : Options) (workspace : Workspace) (home : Option Text)

variable {options workspace home}

end Options

end Stencil
