import Mathlib.Logic.ExistsUnique
import ProfileClient.Arguments
/-!
The grammar of the command line. An accepted command line is a sequence of items, of which the last
command and the last base URL count; any other is refused for the first word that starts no item.
-/
namespace ProfileClient.Arguments

/-- What a command line is made of. -/
inductive Item where
  | whoami
  | help
  | briefHelp
  | baseUrl (url : String)
deriving DecidableEq, Repr

namespace Item

def words : Item → List String
  | .whoami => ["--whoami"]
  | .help => ["--help"]
  | .briefHelp => ["-h"]
  | .baseUrl url => ["--base-url", url]

def command? : Item → Option Command
  | .whoami => some .whoami
  | .help | .briefHelp => some .help
  | .baseUrl _ => none

def url? : Item → Option String
  | .baseUrl url => some url
  | _ => none

end Item

/-- What the items say, where `arguments` is what was said before them. -/
def saying (arguments : Arguments) (items : List Item) : Arguments where
  command := (items.filterMap Item.command?).getLast?.getD arguments.command
  baseUrl := (items.filterMap Item.url?).getLast?.or arguments.baseUrl

def after (arguments : Arguments) (item : Item) : Arguments where
  command := item.command?.getD arguments.command
  baseUrl := item.url?.or arguments.baseUrl

theorem saying_cons (arguments : Arguments) (item : Item) (items : List Item) :
    saying arguments (item :: items) = saying (arguments.after item) items := by
  cases item <;> simp [saying, after, Item.command?, Item.url?, List.getLast?_cons]

theorem readFrom_item (arguments : Arguments) (item : Item) (words : List String) :
    readFrom arguments (item.words ++ words) = readFrom (arguments.after item) words := by
  cases item <;>
    simp [Item.words, readFrom.eq_def arguments, after, Item.command?, Item.url?]

/-- The items at the start are read one by one. -/
theorem readFrom_append (arguments : Arguments) (items : List Item) (rest : List String) :
    readFrom arguments (items.flatMap Item.words ++ rest) =
      readFrom (saying arguments items) rest := by
  induction items generalizing arguments with
  | nil => rfl
  | cons item items ih =>
      rw [List.flatMap_cons, List.append_assoc, readFrom_item, ih, saying_cons]

theorem readFrom_words (arguments : Arguments) (items : List Item) :
    readFrom arguments (items.flatMap Item.words) = .ok (saying arguments items) := by
  have read := readFrom_append arguments items []
  rwa [List.append_nil] at read

/-- No item starts here. -/
def Blocked (words : List String) : Prop := ∀ item : Item, ¬ item.words <+: words

/-- What is wrong with words that start no item. -/
def faultOf (word : String) (rest : List String) : ArgumentError :=
  if word :: rest = ["--base-url"] then .missingUrl else .unknown word

theorem readFrom_blocked (arguments : Arguments) {word : String} {rest : List String}
    (blocked : Blocked (word :: rest)) :
    readFrom arguments (word :: rest) = .error (faultOf word rest) := by
  have noCommand : word ≠ "--whoami" ∧ ¬ (word = "--help" ∨ word = "-h") := by
    have whoami := blocked .whoami
    have help := blocked .help
    have brief := blocked .briefHelp
    simp only [Item.words, List.cons_prefix_cons, List.nil_prefix, and_true] at whoami help brief
    exact ⟨Ne.symm whoami, by rintro (rfl | rfl) <;> contradiction⟩
  rw [readFrom.eq_def, faultOf]
  simp only [if_neg noCommand.1, if_neg noCommand.2]
  by_cases named : word = "--base-url"
  · subst named
    cases rest with
    | nil => rfl
    | cons url rest => exact absurd ⟨rest, rfl⟩ (blocked (.baseUrl url))
  · rw [if_neg named, if_neg fun last => named (List.head_eq_of_cons_eq last)]

/-- The items that a list of words starts with, up to where none starts. -/
theorem exists_items_before_blocked (words : List String) :
    ∃ (items : List Item) (rest : List String),
      words = items.flatMap Item.words ++ rest ∧ Blocked rest := by
  induction h : words.length using Nat.strongRecOn generalizing words with
  | ind length ih =>
      by_cases starts : ∃ item : Item, item.words <+: words
      · obtain ⟨item, rest, rfl⟩ := starts
        have shorter : rest.length < length := by
          rw [← h, List.length_append]
          cases item <;> simp [Item.words]
        obtain ⟨items, rest, rfl, blocked⟩ := ih rest.length shorter rest rfl
        refine ⟨item :: items, rest, ?_, blocked⟩
        rw [List.flatMap_cons, List.append_assoc]
      · exact ⟨[], words, rfl, not_exists.mp starts⟩

theorem exists_items {arguments result : Arguments} {words : List String}
    (accepted : readFrom arguments words = .ok result) :
    ∃ items : List Item, words = items.flatMap Item.words := by
  obtain ⟨items, rest, rfl, blocked⟩ := exists_items_before_blocked words
  cases rest with
  | nil => exact ⟨items, List.append_nil _⟩
  | cons word rest =>
      rw [readFrom_append, readFrom_blocked _ blocked] at accepted
      cases accepted

theorem Item.eq_of_prefix {first second : Item} {words : List String}
    (left : first.words <+: words) (right : second.words <+: words) : first = second := by
  obtain ⟨rest, rfl⟩ := left
  cases first <;> cases second <;> simp_all [Item.words, List.cons_prefix_cons]

theorem items_unique {items items' : List Item} {rest rest' : List String}
    (same : items.flatMap Item.words ++ rest = items'.flatMap Item.words ++ rest')
    (blocked : Blocked rest) (blocked' : Blocked rest') : items = items' ∧ rest = rest' := by
  induction items generalizing items' with
  | nil =>
      cases items' with
      | nil => exact ⟨rfl, same⟩
      | cons item items' =>
          rw [List.flatMap_cons, List.append_assoc] at same
          exact absurd ⟨_, same.symm⟩ (blocked item)
  | cons item items ih =>
      rw [List.flatMap_cons, List.append_assoc] at same
      cases items' with
      | nil => exact absurd ⟨_, same⟩ (blocked' item)
      | cons item' items' =>
          rw [List.flatMap_cons, List.append_assoc] at same
          cases Item.eq_of_prefix ⟨_, same⟩ (List.prefix_append ..)
          obtain ⟨rfl, rfl⟩ := ih (List.append_cancel_left same)
          exact ⟨rfl, rfl⟩

theorem read_words (items : List Item) :
    read (items.flatMap Item.words) =
      .ok ⟨(items.filterMap Item.command?).getLast?.getD .interactive,
        (items.filterMap Item.url?).getLast?⟩ := by
  rw [read, readFrom_words, saying, Option.or_none]

theorem read_blocked (items : List Item) {word : String} {rest : List String}
    (blocked : Blocked (word :: rest)) :
    read (items.flatMap Item.words ++ word :: rest) = .error (faultOf word rest) := by
  rw [read, readFrom_append, readFrom_blocked _ blocked]

/-- Words are read item by item, in the one way there is. A command line is accepted just if it is a
sequence of items, and means the last command and the last base URL of them. Any other is refused
for the first word that starts no item: a base URL announced at the end is missed, and else the word
is unknown. -/
theorem read_grammar (words : List String) :
    (∃! reading : List Item × List String,
      words = reading.1.flatMap Item.words ++ reading.2 ∧ Blocked reading.2) ∧
    (∀ arguments, read words = .ok arguments ↔
      ∃ items : List Item, words = items.flatMap Item.words ∧
        arguments.command = (items.filterMap Item.command?).getLast?.getD .interactive ∧
        arguments.baseUrl = (items.filterMap Item.url?).getLast?) ∧
    ∀ error, read words = .error error ↔
      ∃ (items : List Item) (word : String) (rest : List String),
        words = items.flatMap Item.words ++ word :: rest ∧ Blocked (word :: rest) ∧
          error = if word :: rest = ["--base-url"] then .missingUrl else .unknown word := by
  refine ⟨?_, fun arguments => ⟨?_, ?_⟩, fun error => ⟨?_, ?_⟩⟩
  · obtain ⟨items, rest, same, blocked⟩ := exists_items_before_blocked words
    refine ⟨(items, rest), ⟨same, blocked⟩, ?_⟩
    rintro ⟨items', rest'⟩ ⟨same', blocked'⟩
    obtain ⟨rfl, rfl⟩ := items_unique (same.symm.trans same') blocked blocked'
    rfl
  · intro accepted
    obtain ⟨items, rfl⟩ := exists_items accepted
    cases (read_words items).symm.trans accepted
    exact ⟨items, rfl, rfl, rfl⟩
  · rintro ⟨items, rfl, command, baseUrl⟩
    rw [read_words, ← command, ← baseUrl]
  · intro refused
    obtain ⟨items, rest, rfl, blocked⟩ := exists_items_before_blocked words
    cases rest with
    | nil =>
        rw [List.append_nil, read_words] at refused
        cases refused
    | cons word rest =>
        rw [read_blocked items blocked] at refused
        cases refused
        exact ⟨items, word, rest, rfl, blocked, rfl⟩
  · rintro ⟨items, word, rest, rfl, blocked, rfl⟩
    exact read_blocked items blocked

/-- What follows `--base-url` is its value, also where it reads like a command. -/
example : read ["--base-url", "--help", "-h", "--whoami", "x"] = .error (.unknown "x") := rfl

end ProfileClient.Arguments
