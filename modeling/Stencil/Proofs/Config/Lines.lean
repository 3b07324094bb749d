/-
Configuration files that are written line by line.

A file lists some of the settings in any order, each with a word or a truth value, and may hold
entries with other keys, blank lines and comments in between.  As a document it lists just these
settings, so that each of them has its value and all others have their defaults, unless one is
listed twice.  What is written for a configuration is such a file, and gives the configuration
back.
-/

import Stencil.Proofs.Config.Settings
import Stencil.Proofs.Yaml.Mapping

namespace Stencil
namespace Config

def isInWord (c : Char) : Bool :=
  c.isAlphanum || "_./-".toList.contains c

/-- Words: a letter, and behind it letters, digits and some marks.  Words with a meaning in YAML,
such as those for truth values, are among them: a name is read as its characters. -/
def isWord : Text → Bool
  | [] => false
  | c :: rest => c.isAlpha && rest.all isInWord

/-- Whether a setting takes a text as its value: a truth value for the header, or else a word. -/
def Key.takes : Key → Text → Bool
  | header, text => text == flagWord true || text == flagWord false
  | _, text => isWord text

section

variable {c : Char} {text : Text} {key : Key}

theorem isInWord_of_isAlpha (isAlpha : c.isAlpha = true) : isInWord c = true := by
  rw [isInWord, Char.isAlphanum, isAlpha]
  rfl

theorem isWord_of_takes (takes : key.takes text = true) : isWord text = true := by
  cases key with
  | header =>
      simp only [Key.takes, Bool.or_eq_true, beq_iff_eq] at takes
      rcases takes with rfl | rfl <;> decide
  | runtime | runtimeImport | extension => exact takes

theorem ascii_of_isInWord (inWord : isInWord c = true) : 0x20 ≤ c.toNat ∧ c.toNat ≤ 0x7e := by
  rw [isInWord, Bool.or_eq_true] at inWord
  rcases inWord with alphanum | mark
  · exact Text.ascii_of_isAlphanum alphanum
  · have marks : "_./-".toList.all fun d => decide (0x20 ≤ d.toNat ∧ d.toNat ≤ 0x7e) := by
      decide
    exact of_decide_eq_true (List.all_eq_true.mp marks c (List.contains_iff_mem.mp mark))

theorem beq_of_isInWord (inWord : isInWord c = true) :
    ∀ d ∈ " \t\n\r\u0085\u2028\u2029\ufeff:".toList, (c == d) = false := by
  intro d present
  have none : (" \t\n\r\u0085\u2028\u2029\ufeff:".toList).all fun d => !isInWord d := by decide
  refine beq_false_of_ne ?_
  rintro rfl
  have outside := List.all_eq_true.mp none c present
  rw [inWord] at outside
  cases outside

theorem notWhite_of_isInWord (inWord : isInWord c = true) : Yaml.isWhite c = false := by
  have differs := beq_of_isInWord inWord
  rw [Yaml.isWhite, Yaml.isBlank, Yaml.isBreak, differs ' ' (by decide), differs '\t' (by decide),
    differs '\n' (by decide), differs '\u2028' (by decide), differs '\u2029' (by decide)]
  rfl

theorem isKept_of_isInWord (inWord : isInWord c = true) : Yaml.isKept c = true := by
  have differs := beq_of_isInWord inWord
  obtain ⟨least, greatest⟩ := ascii_of_isInWord inWord
  have allowed : Yaml.isAllowed c = true := by
    rw [Yaml.isAllowed, decide_eq_true least, decide_eq_true greatest]
    simp only [Bool.and_true, Bool.or_true, Bool.true_or]
  rw [Yaml.isKept, allowed, bne, differs '\r' (by decide), bne, differs '\u0085' (by decide)]
  rfl

theorem joins_of_isInWord (inWord : isInWord c = true) (following : Text) :
    Yaml.joins c following = true := by
  obtain ⟨notBlank, notBreak⟩ := Bool.or_eq_false_iff.mp (notWhite_of_isInWord inWord)
  rw [Yaml.joins, notBreak, if_neg Bool.false_ne_true, notBlank, if_neg Bool.false_ne_true, bne,
    beq_of_isInWord inWord ':' (by decide)]
  rfl

theorem flows_of_isInWord (inWord : ∀ c ∈ text, isInWord c = true) (behind : Text) :
    Yaml.flows behind text = true := by
  induction text with
  | nil => rfl
  | cons c text ih =>
      obtain ⟨here, later⟩ := List.forall_mem_cons.mp inWord
      rw [Yaml.flows, isKept_of_isInWord here, bne,
        beq_of_isInWord here Yaml.byteOrderMark (by decide), joins_of_isInWord here, ih later]
      rfl

theorem isInWord_of_isWord (word : isWord text = true) : ∀ c ∈ text, isInWord c = true := by
  cases text with
  | nil => cases word
  | cons c rest =>
      obtain ⟨isAlpha, inWord⟩ := Bool.and_eq_true_iff.mp word
      exact List.forall_mem_cons.mpr ⟨isInWord_of_isAlpha isAlpha, List.all_eq_true.mp inWord⟩

theorem inline_of_isWord (word : isWord text = true) : ∀ c ∈ text, Yaml.isBreak c = false :=
  fun c present =>
    (Bool.or_eq_false_iff.mp (notWhite_of_isInWord (isInWord_of_isWord word c present))).2

theorem isPlain_of_isWord (word : isWord text = true) : Yaml.IsPlain text [] := by
  cases text with
  | nil => cases word
  | cons c rest =>
      have each := isInWord_of_isWord word
      have isAlpha := (Bool.and_eq_true_iff.mp word).1
      have apart : c ∉ '-' :: '?' :: ':' :: Yaml.indicators := by
        intro present
        have none : ('-' :: '?' :: ':' :: Yaml.indicators).all fun d => !d.isAlpha := by decide
        have outside := List.all_eq_true.mp none c present
        rw [isAlpha] at outside
        cases outside
      simp only [List.mem_cons, not_or] at apart
      refine ⟨List.cons_ne_nil c rest, ?_, flows_of_isInWord each [],
        Yaml.last_of_forall fun d present => notWhite_of_isInWord (each d present)⟩
      rw [List.append_nil, Yaml.beginsPlain, if_neg (by simp [apart]),
        notWhite_of_isInWord (each c List.mem_cons_self)]
      simp [apart]

end

inductive Line where
  | setting (key : Key) (text : Text) (takes : key.takes text = true)
  | foreign (entry : Yaml.Entry) (unknown : ∀ key : Key, entry.name ≠ key.name)
  | blank (width : Nat)
  | comment (indent : Nat) (text : Text)
      (inline : ∀ c ∈ text, Yaml.isKept c = true ∧ Yaml.isBreak c = false)

namespace Line

def spelling : Line → Text
  | .setting key text _ => key.name ++ ": ".toList ++ text
  | .foreign entry _ => entry.spelling
  | .blank width => List.replicate width ' '
  | .comment indent text _ => List.replicate indent ' ' ++ '#' :: text

/-- The text of a file.  Its last line need not end with a break. -/
def text (lines : List Line) : Text :=
  ['\n'].intercalate (lines.map spelling)

def key? : Line → Option Key
  | .setting key _ _ => some key
  | _ => none

def value? (key : Key) : Line → Option Text
  | .setting other text _ => if key = other then some text else none
  | _ => none

def keys (lines : List Line) : List Key :=
  lines.filterMap key?

def listed? (lines : List Line) (key : Key) : Option Text :=
  lines.findSome? (value? key)

def entryOf (key : Key) (text : Text) (takes : key.takes text = true) : Yaml.Entry where
  name := key.name
  gap := [' ']
  value := text
  trail := []
  plainName := by cases key <;> exact ⟨by decide, by decide, by decide, by decide⟩
  inlineName := inline_of_isWord (by cases key <;> decide)
  boundedName := by cases key <;> decide
  unmarkedName := by cases key <;> decide
  blankGap := ⟨List.cons_ne_nil _ _, List.forall_mem_singleton.mpr rfl⟩
  plainValue := isPlain_of_isWord (isWord_of_takes takes)
  blankTrail := nofun

def yaml : Line → Yaml.Line
  | .setting key text takes => .item (entryOf key text takes)
  | .foreign entry _ => .item entry
  | .blank width => .blank width
  | .comment indent text inline => .comment indent text inline

theorem spelling_yaml (line : Line) : line.yaml.spelling = line.spelling := by
  cases line with
  | setting key text takes =>
      rw [yaml, Yaml.Line.spelling, Yaml.Entry.spelling, spelling]
      simp [entryOf]
  | foreign entry unknown => rfl
  | blank width => rfl
  | comment indent text inline => rfl

theorem text_yaml (lines : List Line) : Yaml.Line.text (lines.map yaml) = text lines := by
  rw [Yaml.Line.text, text, List.map_map]
  exact congrArg _ (List.map_congr_left fun line _ => spelling_yaml line)

def entries (lines : List Line) : List (Yaml.Node × Yaml.Node) :=
  (Yaml.Line.entries (lines.map yaml)).map Yaml.Entry.node

def document (lines : List Line) : Yaml.Document :=
  ⟨if Yaml.Line.entries (lines.map yaml) = [] then none else some (.mapping (entries lines)),
    .empty⟩

variable {lines : List Line}

theorem entries?_document (lines : List Line) :
    (document lines).entries? = some (entries lines) := by
  by_cases none : Yaml.Line.entries (lines.map yaml) = []
  · simp only [Yaml.Document.entries?, document, entries, none, if_pos, List.map_nil]
  · simp only [Yaml.Document.entries?, document, if_neg none]

theorem ofText?_text (lines : List Line) :
    ofText? (text lines) = ofPairs? (document lines) default [] (entries lines) := by
  have read : Yaml.read? (text lines) = some (document lines) := by
    rw [← text_yaml]
    exact Yaml.read?_text _
  rw [ofText?, read, Option.bind_some, ofDocument?_eq, entries?_document, Option.bind_some]

section

variable (document : Yaml.Document) {key : Key} {text : Text} (takes : key.takes text = true)

theorem keyOf?_setting : document.keyOf? (entryOf key text takes).node = some key :=
  Key.ofName?_eq_some_iff.mpr rfl

theorem keyOf?_foreign {entry : Yaml.Entry} (unknown : ∀ key : Key, entry.name ≠ key.name) :
    document.keyOf? entry.node = none :=
  Option.eq_none_iff_forall_ne_some.mpr
    fun key isKey => unknown key (Key.ofName?_eq_some_iff.mp isKey)

theorem valueOf?_setting : document.valueOf? key (entryOf key text takes).node = some text := by
  have value : Yaml.flowed [] text = text :=
    Yaml.flowed_inline (List.forall_mem_nil _) (inline_of_isWord (isWord_of_takes takes))
  change key.written? ⟨.plain, none, Yaml.flowed [] text⟩ = some text
  rw [value]
  cases key with
  | header =>
      simp only [Key.takes, Bool.or_eq_true, beq_iff_eq] at takes
      rcases takes with rfl | rfl <;> rfl
  | runtime | runtimeImport | extension => rfl

end

theorem keys_entries (document : Yaml.Document) (lines : List Line) :
    (entries lines).filterMap document.keyOf? = keys lines := by
  induction lines with
  | nil => rfl
  | cons line lines ih =>
      cases line with
      | setting key text takes =>
          exact (List.filterMap_cons_some (keyOf?_setting document takes)).trans
            (congrArg (key :: ·) ih)
      | foreign entry unknown =>
          exact (List.filterMap_cons_none (keyOf?_foreign document unknown)).trans ih
      | blank width => exact ih
      | comment indent text inline => exact ih

theorem listed?_entries (document : Yaml.Document) (lines : List Line) (key : Key) :
    document.listed? (entries lines) key = listed? lines key := by
  induction lines with
  | nil => rfl
  | cons line lines ih =>
      cases line with
      | setting other text takes =>
          refine (Yaml.Document.listed?_cons_of_key (keyOf?_setting document takes) key).trans ?_
          rw [valueOf?_setting, listed?, List.findSome?_cons, value?, ← listed?, ← ih]
          split <;> rfl
      | foreign entry unknown =>
          have passed : document.listed? (entry.node :: entries lines) =
              document.listed? (entries lines) :=
            Yaml.Document.listed?_cons_of_foreign (keyOf?_foreign document unknown)
          exact (congrFun passed key).trans ih
      | blank width => exact ih
      | comment indent text inline => exact ih

theorem mem_entries {entry : Yaml.Node × Yaml.Node} (present : entry ∈ entries lines) :
    (∃ key text takes, entry = (entryOf key text takes).node) ∨
      ∃ foreign : Yaml.Entry, (∀ key : Key, foreign.name ≠ key.name) ∧ entry = foreign.node := by
  obtain ⟨item, isItem, rfl⟩ := List.mem_map.mp present
  obtain ⟨line, isLine, found⟩ := List.mem_filterMap.mp isItem
  obtain ⟨source, -, rfl⟩ := List.mem_map.mp isLine
  cases source with
  | setting key text takes =>
      cases found
      exact .inl ⟨key, text, takes, rfl⟩
  | foreign item unknown =>
      cases found
      exact .inr ⟨item, unknown, rfl⟩
  | blank width => cases found
  | comment indent text inline => cases found

theorem lists_iff (document : Yaml.Document) (lines : List Line) :
    document.Lists [] (entries lines) ↔ (keys lines).Nodup := by
  constructor
  · intro lists
    rw [← keys_entries document]
    exact lists.once
  · intro distinct
    refine ⟨?_, ?_, fun key present => List.not_mem_nil, ?_⟩
    · intro entry present
      obtain ⟨item, -, rfl⟩ := List.mem_map.mp present
      rfl
    · rwa [keys_entries]
    · intro entry present key isKey
      obtain ⟨other, text, takes, rfl⟩ | ⟨item, unknown, rfl⟩ := mem_entries present
      · cases (keyOf?_setting document takes).symm.trans isKey
        rw [valueOf?_setting]
        rfl
      · cases (keyOf?_foreign document unknown).symm.trans isKey

theorem exists_ofText?_text (lines : List Line) (distinct : (keys lines).Nodup) :
    ∃ config, ofText? (text lines) = some config ∧
      ∀ key, config.render key = (listed? lines key).getD (default.render key) := by
  obtain ⟨config, read⟩ := exists_ofPairs? ((lists_iff (document lines) lines).mpr distinct) default
  refine ⟨config, (ofText?_text lines).trans read, fun key => ?_⟩
  rw [(ofPairs?_eq_some_iff.mp read).2, listed?_entries]

theorem ofText?_text_eq_none (lines : List Line) (repeated : ¬ (keys lines).Nodup) :
    ofText? (text lines) = none := by
  rw [ofText?_text, Option.eq_none_iff_forall_ne_some]
  intro config read
  exact repeated ((lists_iff (document lines) lines).mp (ofPairs?_eq_some_iff.mp read).1)

end Line

/-- A configuration with words in its fields. -/
structure HasWords (config : Config) : Prop where
  runtime : isWord config.runtime = true
  runtimeImport : isWord config.runtimeImport = true
  extension : isWord config.extension = true

theorem HasWords.takes {config : Config} (words : config.HasWords) (key : Key) :
    key.takes (config.render key) = true := by
  cases key with
  | runtime => exact words.runtime
  | runtimeImport => exact words.runtimeImport
  | extension => exact words.extension
  | header =>
      rw [render]
      cases config.header <;> decide

def lines (config : Config) (words : config.HasWords) : List Line :=
  Key.all.map (fun key => .setting key (config.render key) (words.takes key)) ++ [.blank 0]

theorem text_lines (config : Config) (words : config.HasWords) :
    Line.text (config.lines words) = config.toText := by
  simp [Line.text, lines, Key.all, Line.spelling, toText, List.intercalate_cons_cons]

theorem keys_lines (config : Config) (words : config.HasWords) :
    Line.keys (config.lines words) = Key.all := rfl

theorem listed?_lines (config : Config) (words : config.HasWords) (key : Key) :
    Line.listed? (config.lines words) key = some (config.render key) := by
  cases key <;> rfl

/-- Files that are written line by line.  If no setting is listed twice, each has its listed value
or else its default, whatever the order is and whatever stands in between; if one is, there is no
configuration.  What is written for a configuration with words gives it back. -/
theorem lines_give_settings :
    (∀ lines : List Line,
      ((Line.keys lines).Nodup → ∃ config, ofText? (Line.text lines) = some config ∧
        ∀ key, config.render key = (Line.listed? lines key).getD (default.render key)) ∧
      (¬ (Line.keys lines).Nodup → ofText? (Line.text lines) = none)) ∧
    ∀ config : Config, config.HasWords → ofText? config.toText = some config := by
  refine ⟨fun lines => ⟨Line.exists_ofText?_text lines, Line.ofText?_text_eq_none lines⟩, ?_⟩
  intro config words
  have distinct : (Line.keys (config.lines words)).Nodup := by
    rw [keys_lines]
    decide
  obtain ⟨result, read, rendered⟩ := Line.exists_ofText?_text _ distinct
  have same : result = config := eq_of_render_eq fun key => by
    rw [rendered, listed?_lines, Option.getD_some]
  rw [← text_lines config words, read, same]

end Config
end Stencil
