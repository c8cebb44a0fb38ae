import Mathlib.Data.List.Basic

/-!
# Splitting a command line

Blanks separate the arguments, quotes group, and an escape letter gives its meaning
away only before a quote: two escapes there stand for one, and a single one makes the
quote a letter. The alphabet and its special letters are parameters.

No rule adds a letter. What is left over of a line of the right length therefore says
what was lost on the way, and `split_weight_le` is the tool to read a line back from
its arguments.
-/

namespace CheckerOlimp.Std

/-- The letters with a meaning of their own. -/
structure Quoting (α : Type) where
  blank : α → Bool
  quote : α
  escape : α
  quote_not_blank : blank quote = false
  escape_not_blank : blank escape = false
  quote_ne_escape : quote ≠ escape

namespace Quoting

variable {α : Type}

/-- What has been read: the finished arguments, the one that is being read without
the escapes at its end, their number, and whether a quote is open. -/
structure Splitter (α : Type) where
  arguments : List (List α)
  current : Option (List α)
  pending : Nat
  quoted : Bool
deriving DecidableEq, Repr

/-- Nothing has been read. -/
def fresh : Splitter α := ⟨[], none, 0, false⟩

variable (rules : Quoting α)

/-- The letters of the argument that is being read, when its escapes stand for themselves. -/
def letters (splitter : Splitter α) : List α :=
  splitter.current.getD [] ++ List.replicate splitter.pending rules.escape

/-- All arguments, when the line ends here. -/
def finish (splitter : Splitter α) : List (List α) :=
  match splitter.current with
  | none => splitter.arguments
  | some _ => splitter.arguments ++ [rules.letters splitter]

/-- The letters that stand for themselves: escapes at the end of an argument are halved
before a quote. -/
def halved (splitter : Splitter α) : List α :=
  splitter.current.getD [] ++ List.replicate (splitter.pending / 2) rules.escape

variable [DecidableEq α]

/-- One letter is read. -/
def step (splitter : Splitter α) (letter : α) : Splitter α :=
  if letter = rules.escape then
    { splitter with current := some (splitter.current.getD []), pending := splitter.pending + 1 }
  else if letter = rules.quote then
    if splitter.pending % 2 = 1 then
      { splitter with current := some (rules.halved splitter ++ [letter]), pending := 0 }
    else
      { splitter with
        current := some (rules.halved splitter), pending := 0, quoted := !splitter.quoted }
  else if rules.blank letter && !splitter.quoted then
    ⟨rules.finish splitter, none, 0, false⟩
  else
    { splitter with current := some (rules.letters splitter ++ [letter]), pending := 0 }

/-- A line is read. -/
def run (splitter : Splitter α) (line : List α) : Splitter α := line.foldl rules.step splitter

/-- The arguments of a line. -/
def split (line : List α) : List (List α) := rules.finish (rules.run fresh line)

@[simp] theorem run_nil (splitter : Splitter α) : rules.run splitter [] = splitter := rfl

@[simp] theorem run_cons (splitter : Splitter α) (letter : α) (line : List α) :
    rules.run splitter (letter :: line) = rules.run (rules.step splitter letter) line := rfl

theorem run_append (splitter : Splitter α) (front back : List α) :
    rules.run splitter (front ++ back) = rules.run (rules.run splitter front) back :=
  List.foldl_append

/-! ## The cases of a step -/

section Step

variable {rules} {splitter : Splitter α} {letter : α}

theorem step_escape : rules.step splitter rules.escape =
    { splitter with current := some (splitter.current.getD []), pending := splitter.pending + 1 } :=
  if_pos rfl

/-- A quote after no escape opens or closes. -/
theorem step_quote (clear : splitter.pending = 0) : rules.step splitter rules.quote =
    { splitter with current := some (splitter.current.getD []), quoted := !splitter.quoted } := by
  rw [step, if_neg rules.quote_ne_escape, if_pos rfl, if_neg (by omega), halved, clear]
  simp

/-- An open blank ends the argument. -/
theorem step_blank (blank : rules.blank letter = true) (unquoted : splitter.quoted = false) :
    rules.step splitter letter = ⟨rules.finish splitter, none, 0, false⟩ := by
  have notEscape : letter ≠ rules.escape := by
    rintro rfl
    exact absurd blank (by simp [rules.escape_not_blank])
  have notQuote : letter ≠ rules.quote := by
    rintro rfl
    exact absurd blank (by simp [rules.quote_not_blank])
  rw [step, if_neg notEscape, if_neg notQuote, if_pos (by simp [blank, unquoted])]

/-- After any other letter than an escape none is pending. -/
theorem step_pending (other : letter ≠ rules.escape) :
    (rules.step splitter letter).pending = 0 := by
  rw [step, if_neg other]
  by_cases quote : letter = rules.quote
  · rw [if_pos quote]
    split <;> rfl
  · rw [if_neg quote]
    split <;> rfl

/-- The letters that stand for themselves, within quotes and outside of them. -/
def Plain (rules : Quoting α) (quoted : Bool) (letter : α) : Prop :=
  letter ≠ rules.quote ∧ (quoted = false → rules.blank letter = false)

/-- `next` has read a text into the argument. -/
structure Reads (rules : Quoting α) (splitter : Splitter α) (text : List α)
    (next : Splitter α) : Prop where
  arguments : next.arguments = splitter.arguments
  quoted : next.quoted = splitter.quoted
  letters : rules.letters next = rules.letters splitter ++ text
  current : splitter.current.isSome ∨ text ≠ [] → next.current.isSome

/-- A plain letter is added to the argument. -/
theorem step_reads (plain : rules.Plain splitter.quoted letter) :
    Reads rules splitter [letter] (rules.step splitter letter) := by
  by_cases escape : letter = rules.escape
  · subst escape
    rw [step_escape]
    refine ⟨rfl, rfl, ?_, fun _ => rfl⟩
    simp [Quoting.letters, List.replicate_succ']
  · have kept : ¬ (rules.blank letter && !splitter.quoted) = true := by
      cases quoted : splitter.quoted with
      | true => simp
      | false => simp [plain.2 quoted]
    rw [step, if_neg escape, if_neg plain.1, if_neg kept]
    refine ⟨rfl, rfl, ?_, fun _ => rfl⟩
    simp [Quoting.letters]

end Step

/-! ## Reading a plain text -/

section Run

variable {rules} {splitter : Splitter α} {text : List α}

theorem run_reads (plain : ∀ letter ∈ text, rules.Plain splitter.quoted letter) :
    Reads rules splitter text (rules.run splitter text) := by
  induction text generalizing splitter with
  | nil => exact ⟨rfl, rfl, by simp, fun given => given.elim id (absurd rfl)⟩
  | cons letter rest inductionHypothesis =>
      have first := step_reads (plain letter List.mem_cons_self)
      have later : Reads rules (rules.step splitter letter) rest
          (rules.run (rules.step splitter letter) rest) := by
        refine inductionHypothesis fun other member => ?_
        rw [first.quoted]
        exact plain other (List.mem_cons_of_mem _ member)
      rw [run_cons]
      refine ⟨later.arguments.trans first.arguments, later.quoted.trans first.quoted, ?_,
        fun _ => later.current (.inl (first.current (.inr (List.cons_ne_nil _ _))))⟩
      rw [later.letters, first.letters]
      simp

/-- A text that does not end with an escape leaves none pending. -/
theorem run_pending (clear : splitter.pending = 0) (ends : text.getLast? ≠ some rules.escape) :
    (rules.run splitter text).pending = 0 := by
  rcases List.eq_nil_or_concat text with rfl | ⟨front, last, rfl⟩
  · exact clear
  · rw [List.concat_eq_append, run_append, run_cons, run_nil]
    refine step_pending fun same => ends ?_
    simp [same]

/-- A quoted argument after a separator. -/
theorem run_argument {separator : α} {argument : List α}
    (blank : rules.blank separator = true) (unquoted : splitter.quoted = false)
    (noQuote : rules.quote ∉ argument) (ends : argument.getLast? ≠ some rules.escape) :
    rules.run splitter (separator :: rules.quote :: (argument ++ [rules.quote])) =
      ⟨rules.finish splitter, some argument, 0, false⟩ := by
  let opened : Splitter α := ⟨rules.finish splitter, some [], 0, true⟩
  have opening : rules.run splitter (separator :: rules.quote :: (argument ++ [rules.quote])) =
      rules.run (rules.run opened argument) [rules.quote] := by
    rw [run_cons, step_blank blank unquoted, run_cons, step_quote rfl, run_append]
    rfl
  have reads : Reads rules opened argument (rules.run opened argument) := by
    refine run_reads fun letter member => ⟨?_, fun quoted => by cases quoted⟩
    rintro rfl
    exact noQuote member
  have clear : (rules.run opened argument).pending = 0 := run_pending rfl ends
  have content : (rules.run opened argument).current.getD [] = argument := by
    have letters := reads.letters
    simpa [Quoting.letters, clear, opened] using letters
  rw [opening, run_cons, run_nil, step_quote clear, content, reads.arguments, reads.quoted, clear]
  rfl

end Run

/-! ## A line of quoted arguments -/

section Join

variable {separator : α} {program : List α} {arguments : List (List α)}

omit [DecidableEq α] in
/-- A program and its arguments, each within quotes and after a separator. -/
def join (rules : Quoting α) (separator : α) (program : List α) (arguments : List (List α)) :
    List α :=
  program ++ arguments.flatMap fun argument =>
    separator :: rules.quote :: (argument ++ [rules.quote])

variable {rules}

/-- The arguments are read one by one. -/
theorem finish_run_arguments {splitter : Splitter α} (blank : rules.blank separator = true)
    (unquoted : splitter.quoted = false)
    (plain : ∀ argument ∈ arguments,
      rules.quote ∉ argument ∧ argument.getLast? ≠ some rules.escape) :
    rules.finish (rules.run splitter (arguments.flatMap fun argument =>
        separator :: rules.quote :: (argument ++ [rules.quote]))) =
      rules.finish splitter ++ arguments := by
  induction arguments generalizing splitter with
  | nil => simp
  | cons argument rest inductionHypothesis =>
      obtain ⟨noQuote, ends⟩ := plain argument List.mem_cons_self
      rw [List.flatMap_cons, run_append, run_argument blank unquoted noQuote ends,
        inductionHypothesis rfl fun other member => plain other (List.mem_cons_of_mem _ member)]
      simp [finish, Quoting.letters]

omit [DecidableEq α] in
/-- A text read from the start of a line is the first argument. -/
theorem finish_reads {text : List α} {next : Splitter α} (proper : text ≠ [])
    (reads : Reads rules fresh text next) : rules.finish next = [text] := by
  obtain ⟨current, started⟩ := Option.isSome_iff_exists.mp (reads.current (.inr proper))
  rw [finish, started]
  simp only [reads.arguments, reads.letters]
  simp [fresh, Quoting.letters]

/-- A plain program and plain arguments are read back. -/
theorem split_join (blank : rules.blank separator = true) (proper : program ≠ [])
    (plain : ∀ letter ∈ program, rules.Plain false letter)
    (plains : ∀ argument ∈ arguments,
      rules.quote ∉ argument ∧ argument.getLast? ≠ some rules.escape) :
    rules.split (rules.join separator program arguments) = program :: arguments := by
  have reads : Reads rules fresh program (rules.run fresh program) := run_reads plain
  have first : rules.finish (rules.run fresh program) = [program] := finish_reads proper reads
  rw [split, join, run_append, finish_run_arguments blank reads.quoted plains, first]
  rfl

end Join

/-! ## What is lost on the way

Every letter but a quote adds at most one to the counted letters and the number of
arguments together; a quote adds nothing. -/

section Weight

variable {counted : α → Bool} {splitter : Splitter α} {letter : α} {line : List α}

omit [DecidableEq α] in
/-- The counted letters that have been read, and the number of finished arguments. -/
def weight (counted : α → Bool) (splitter : Splitter α) : Nat :=
  splitter.arguments.flatten.countP counted + splitter.arguments.length +
    (splitter.current.getD []).countP counted + splitter.pending

omit [DecidableEq α] in
theorem countP_replicate_le (counted : α → Bool) (count : Nat) (letter : α) :
    (List.replicate count letter).countP counted ≤ count := by
  simpa using List.countP_le_length (p := counted) (l := List.replicate count letter)

/-- The letters of a line that are no quotes. -/
def size (rules : Quoting α) (line : List α) : Nat := line.countP (· ≠ rules.quote)

variable {rules}

@[simp] theorem size_nil : rules.size [] = 0 := rfl

theorem size_cons (letter : α) (line : List α) :
    rules.size (letter :: line) = rules.size line + if letter = rules.quote then 0 else 1 := by
  unfold size
  rw [List.countP_cons]
  by_cases quote : letter = rules.quote <;> simp [quote]

@[simp] theorem size_append (front back : List α) :
    rules.size (front ++ back) = rules.size front + rules.size back := List.countP_append

omit [DecidableEq α] in
/-- Finishing an argument adds it to the number. -/
theorem weight_finish_le (counted : α → Bool) (splitter : Splitter α) :
    (rules.finish splitter).flatten.countP counted + (rules.finish splitter).length ≤
      weight counted splitter + 1 := by
  unfold finish weight
  cases current : splitter.current with
  | none => simp; omega
  | some content =>
      have bound := countP_replicate_le counted splitter.pending rules.escape
      simp [Quoting.letters, current]
      omega

/-- One letter adds at most one, and a quote nothing. -/
theorem weight_step_le :
    weight counted (rules.step splitter letter) ≤
      weight counted splitter + if letter = rules.quote then 0 else 1 := by
  have one : ([letter].countP counted) ≤ 1 := List.countP_le_length
  by_cases escape : letter = rules.escape
  · subst escape
    rw [step_escape, if_neg rules.quote_ne_escape.symm]
    simp [weight]
    omega
  by_cases quote : letter = rules.quote
  · have bound :=
      countP_replicate_le counted (splitter.pending / 2) rules.escape
    rw [step, if_neg escape, if_pos quote, if_pos quote]
    by_cases odd : splitter.pending % 2 = 1
    · rw [if_pos odd]
      simp only [weight, halved, Option.getD_some, List.countP_append]
      omega
    · rw [if_neg odd]
      simp only [weight, halved, Option.getD_some, List.countP_append]
      omega
  rw [step, if_neg escape, if_neg quote, if_neg quote]
  split
  · have finished : (rules.finish splitter).flatten.countP counted +
        (rules.finish splitter).length ≤ weight counted splitter + 1 :=
      weight_finish_le counted splitter
    simpa [weight] using finished
  · have bound := countP_replicate_le counted splitter.pending rules.escape
    simp only [weight, Quoting.letters, Option.getD_some, List.countP_append]
    omega

/-- An escaped quote that is not counted loses its escape. -/
theorem weight_step_escaped (uncounted : counted rules.quote = false)
    (escaped : 0 < splitter.pending) :
    weight counted (rules.step splitter rules.quote) + 1 ≤ weight counted splitter := by
  have bound := countP_replicate_le counted (splitter.pending / 2) rules.escape
  rw [step, if_neg rules.quote_ne_escape, if_pos rfl]
  by_cases odd : splitter.pending % 2 = 1
  · rw [if_pos odd]
    simp only [weight, halved, Option.getD_some, List.countP_append, List.countP_singleton,
      uncounted]
    simp
    omega
  · rw [if_neg odd]
    simp only [weight, halved, Option.getD_some, List.countP_append]
    omega

theorem weight_run_le :
    weight counted (rules.run splitter line) ≤
      weight counted splitter + rules.size line := by
  induction line generalizing splitter with
  | nil => simp
  | cons letter rest inductionHypothesis =>
      have first : weight counted (rules.step splitter letter) ≤
          weight counted splitter + if letter = rules.quote then 0 else 1 := weight_step_le
      have later : weight counted (rules.run (rules.step splitter letter) rest) ≤
          weight counted (rules.step splitter letter) + rules.size rest := inductionHypothesis
      rw [run_cons, size_cons]
      omega

/-- The counted letters of the arguments and their number are bounded by the letters of
the line that are no quotes. -/
theorem split_weight_le (counted : α → Bool) (line : List α) :
    (rules.split line).flatten.countP counted + (rules.split line).length ≤
      rules.size line + 1 := by
  have finished : (rules.split line).flatten.countP counted + (rules.split line).length ≤
      weight counted (rules.run fresh line) + 1 := weight_finish_le counted _
  have run : weight counted (rules.run fresh line) ≤
      weight counted fresh + rules.size line := weight_run_le
  have zero : weight counted (fresh : Splitter α) = 0 := rfl
  omega

/-- With an escape before a quote one letter less is left. -/
theorem split_weight_lt (counted : α → Bool) (uncounted : counted rules.quote = false)
    (front back : List α) :
    (rules.split (front ++ rules.escape :: rules.quote :: back)).flatten.countP counted +
        (rules.split (front ++ rules.escape :: rules.quote :: back)).length ≤
      rules.size (front ++ rules.escape :: rules.quote :: back) := by
  let reached := rules.run fresh front
  let escaping := rules.step reached rules.escape
  have whole : rules.run fresh (front ++ rules.escape :: rules.quote :: back) =
      rules.run (rules.step escaping rules.quote) back := by
    rw [run_append, run_cons, run_cons]
  have before : weight counted reached ≤ weight counted fresh + rules.size front :=
    weight_run_le
  have escape : weight counted escaping ≤ weight counted reached + 1 := by
    have bound : weight counted escaping ≤
        weight counted reached + if rules.escape = rules.quote then 0 else 1 := weight_step_le
    rwa [if_neg rules.quote_ne_escape.symm] at bound
  have quote : weight counted (rules.step escaping rules.quote) + 1 ≤ weight counted escaping := by
    refine weight_step_escaped uncounted ?_
    simp [escaping, step_escape]
  let last := rules.run (rules.step escaping rules.quote) back
  have after : weight counted last ≤
      weight counted (rules.step escaping rules.quote) + rules.size back := weight_run_le
  have finished : (rules.finish last).flatten.countP counted + (rules.finish last).length ≤
      weight counted last + 1 := weight_finish_le counted last
  have zero : weight counted (fresh : Splitter α) = 0 := rfl
  have total : rules.size (front ++ rules.escape :: rules.quote :: back) =
      rules.size front + 1 + rules.size back := by
    rw [size_append, size_cons, size_cons, if_pos rfl, if_neg rules.quote_ne_escape.symm]
    omega
  have arguments : rules.split (front ++ rules.escape :: rules.quote :: back) =
      rules.finish last := congrArg rules.finish whole
  rw [arguments, total]
  omega

end Weight

/-! ## The lines that are read back -/

section Converse

variable {rules} {separator : α} {program : List α} {arguments : List (List α)}

omit [DecidableEq α] in
/-- The letters of a line of quoted arguments. -/
theorem size_join [DecidableEq α] (blank : rules.blank separator = true) :
    rules.size (rules.join separator program arguments) =
      rules.size program + rules.size arguments.flatten + arguments.length := by
  have notQuote : separator ≠ rules.quote := by
    rintro rfl
    exact absurd blank (by simp [rules.quote_not_blank])
  unfold join
  rw [size_append]
  induction arguments with
  | nil => simp
  | cons argument rest inductionHypothesis =>
      simp only [List.flatMap_cons, List.flatten_cons, size_append, size_cons, size_nil, notQuote,
        ↓reduceIte, List.length_cons] at inductionHypothesis ⊢
      omega

/-- A text of counted letters has as many as letters that are no quotes. -/
theorem no_quote_of_length_le {text : List α} (bound : text.length ≤ rules.size text) :
    rules.quote ∉ text := by
  intro member
  have every : ∀ letter ∈ text, decide (letter ≠ rules.quote) = true :=
    List.countP_eq_length.mp (Nat.le_antisymm List.countP_le_length bound)
  simpa using every rules.quote member

omit [DecidableEq α] in
theorem arguments_prefix_finish (splitter : Splitter α) :
    splitter.arguments <+: rules.finish splitter := by
  unfold finish
  cases splitter.current with
  | none => exact List.prefix_rfl
  | some content => exact List.prefix_append _ _

/-- What has been finished stays in front. -/
theorem arguments_prefix_run (splitter : Splitter α) (line : List α) :
    splitter.arguments <+: (rules.run splitter line).arguments := by
  induction line generalizing splitter with
  | nil => exact List.prefix_rfl
  | cons letter rest inductionHypothesis =>
      refine List.IsPrefix.trans ?_ (inductionHypothesis (rules.step splitter letter))
      unfold step
      split
      · exact List.prefix_rfl
      · split
        · split <;> exact List.prefix_rfl
        · split
          · exact arguments_prefix_finish splitter
          · exact List.prefix_rfl

/-- A blank in front of a line is one letter too many. -/
theorem split_blank_weight_le {letter : α} (blank : rules.blank letter = true) (line : List α) :
    (rules.split (letter :: line)).flatten.length + (rules.split (letter :: line)).length ≤
      rules.size (letter :: line) := by
  have skipped : rules.split (letter :: line) = rules.split line := by
    rw [split, run_cons, step_blank blank rfl]
    rfl
  have notQuote : letter ≠ rules.quote := by
    rintro rfl
    exact absurd blank (by simp [rules.quote_not_blank])
  have bound : (rules.split line).flatten.countP (fun _ => true) + (rules.split line).length ≤
      rules.size line + 1 := split_weight_le (fun _ => true) line
  rw [List.countP_true] at bound
  rw [skipped, size_cons, if_neg notQuote]
  exact bound

/-- A blank after the first letters ends the first argument there. -/
theorem first_of_split_blank {front rest : List α} {letter : α} {others : List (List α)}
    (proper : front ≠ []) (plain : ∀ other ∈ front, rules.Plain false other)
    (blank : rules.blank letter = true)
    (read : rules.split (front ++ letter :: rest) = program :: others) : program = front := by
  have reads : Reads rules fresh front (rules.run fresh front) := run_reads plain
  have first : rules.finish (rules.run fresh front) = [front] := finish_reads proper reads
  have ended : rules.split (front ++ letter :: rest) =
      rules.finish (rules.run ⟨[front], none, 0, false⟩ rest) := by
    rw [split, run_append, run_cons, step_blank blank reads.quoted, first]
  have leading : [front] <+: program :: others := by
    rw [← read, ended]
    have kept : [front] <+: (rules.run ⟨[front], none, 0, false⟩ rest).arguments :=
      arguments_prefix_run ⟨[front], none, 0, false⟩ rest
    exact kept.trans (arguments_prefix_finish _)
  exact (List.cons_prefix_cons.mp leading).1.symm

omit [DecidableEq α] in
/-- An argument that ends with an escape leaves it before the closing quote. -/
theorem join_of_escape {argument : List α} (member : argument ∈ arguments)
    (ends : argument.getLast? = some rules.escape) :
    ∃ front back, rules.join separator program arguments =
      front ++ rules.escape :: rules.quote :: back := by
  obtain ⟨earlier, later, rfl⟩ := List.append_of_mem member
  obtain ⟨start, rfl⟩ := List.getLast?_eq_some_iff.mp ends
  refine ⟨rules.join separator program earlier ++ separator :: rules.quote :: start,
    later.flatMap fun argument => separator :: rules.quote :: (argument ++ [rules.quote]), ?_⟩
  simp [join]

/-- A line that is read back does not start with a blank. -/
theorem not_blank_of_read (blank : rules.blank separator = true)
    (read : rules.split (rules.join separator program arguments) = program :: arguments)
    {letter : α} {line : List α}
    (starts : rules.join separator program arguments = letter :: line) :
    rules.blank letter = false := by
  cases leading : rules.blank letter with
  | false => rfl
  | true =>
      have bound : (rules.split (letter :: line)).flatten.length +
          (rules.split (letter :: line)).length ≤ rules.size (letter :: line) :=
        split_blank_weight_le leading line
      have lengths : rules.size program ≤ program.length := List.countP_le_length
      have lengths' : rules.size arguments.flatten ≤ arguments.flatten.length :=
        List.countP_le_length
      rw [← starts, read, size_join blank, List.flatten_cons, List.length_append,
        List.length_cons] at bound
      omega

/-- The program of a line that is read back has letters, none of them blank. -/
theorem program_of_read (blank : rules.blank separator = true)
    (read : rules.split (rules.join separator program arguments) = program :: arguments)
    (noQuote : rules.quote ∉ program) :
    program ≠ [] ∧ ∀ letter ∈ program, rules.blank letter = false := by
  constructor
  · rintro rfl
    cases arguments with
    | nil => cases read
    | cons argument rest =>
        have unblank := not_blank_of_read blank read rfl
        exact absurd blank (by simp [unblank])
  · intro letter member
    cases found : program.find? rules.blank with
    | none => simpa using List.find?_eq_none.mp found letter member
    | some first =>
        obtain ⟨isBlank, front, rest, whole, before⟩ := List.find?_eq_some_iff_append.mp found
        obtain ⟨tail, joined⟩ :
            ∃ tail, rules.join separator program arguments = program ++ tail := ⟨_, rfl⟩
        have line : rules.join separator program arguments = front ++ first :: (rest ++ tail) := by
          rw [joined, whole]
          simp
        by_cases empty : front = []
        · rw [empty, List.nil_append] at line
          have unblank := not_blank_of_read blank read line
          exact absurd isBlank (by simp [unblank])
        · have plain : ∀ other ∈ front, rules.Plain false other := by
            intro other member
            refine ⟨?_, fun _ => by simpa using before other member⟩
            rintro rfl
            exact noQuote (whole ▸ List.mem_append_left _ member)
          have same : program = front := first_of_split_blank empty plain isBlank (line ▸ read)
          have longer := congrArg List.length whole
          rw [List.length_append, List.length_cons, same] at longer
          omega

/-- A line that is read back has no quotes but its own, and no escape before one. -/
theorem arguments_of_read (blank : rules.blank separator = true)
    (read : rules.split (rules.join separator program arguments) = program :: arguments) :
    rules.quote ∉ program ∧ ∀ argument ∈ arguments,
      rules.quote ∉ argument ∧ argument.getLast? ≠ some rules.escape := by
  have length : rules.size (rules.join separator program arguments) =
      rules.size program + rules.size arguments.flatten + arguments.length := size_join blank
  have noQuote : rules.quote ∉ program ++ arguments.flatten := by
    refine no_quote_of_length_le ?_
    have bound : (rules.split (rules.join separator program arguments)).flatten.countP
        (fun _ => true) + (rules.split (rules.join separator program arguments)).length ≤
          rules.size (rules.join separator program arguments) + 1 := split_weight_le _ _
    rw [read, List.countP_true, length, List.flatten_cons, List.length_cons] at bound
    rw [size_append]
    omega
  have ends : ∀ argument ∈ arguments, argument.getLast? ≠ some rules.escape := by
    intro argument member last
    obtain ⟨front, back, escaped⟩ : ∃ front back, rules.join separator program arguments =
        front ++ rules.escape :: rules.quote :: back := join_of_escape member last
    have uncounted : decide (rules.quote ≠ rules.quote) = false := by simp
    have bound := split_weight_lt (fun letter => decide (letter ≠ rules.quote)) uncounted front back
    rw [← escaped, read, length, List.flatten_cons, List.length_cons] at bound
    change rules.size (program ++ arguments.flatten) + _ ≤ _ at bound
    rw [size_append] at bound
    omega
  refine ⟨fun quoted => noQuote (List.mem_append_left _ quoted), fun argument member =>
    ⟨fun quoted => noQuote (List.mem_append_right _ ?_), ends argument member⟩⟩
  exact List.mem_flatten.mpr ⟨argument, member, quoted⟩

/-- A line of quoted arguments is read back exactly when the program has letters, none of
them blank or a quote, and no argument has a quote or ends with an escape. -/
theorem split_join_iff (blank : rules.blank separator = true) :
    rules.split (rules.join separator program arguments) = program :: arguments ↔
      program ≠ [] ∧ (∀ letter ∈ program, rules.Plain false letter) ∧
        ∀ argument ∈ arguments,
          rules.quote ∉ argument ∧ argument.getLast? ≠ some rules.escape := by
  constructor
  · intro read
    obtain ⟨noQuote, plains⟩ := arguments_of_read blank read
    obtain ⟨proper, unblank⟩ := program_of_read blank read noQuote
    refine ⟨proper, fun letter member => ⟨?_, fun _ => unblank letter member⟩, plains⟩
    rintro rfl
    exact noQuote member
  · rintro ⟨proper, plain, plains⟩
    exact split_join blank proper plain plains

end Converse

/-! ## A line of words

Without quotes an argument is a run of letters between blanks. -/

section Words

variable {rules} {separator : α} {program : List α} {arguments : List (List α)}

omit [DecidableEq α] in
/-- A program and its arguments, each as it is and after a separator. -/
def words (separator : α) (program : List α) (arguments : List (List α)) : List α :=
  program ++ arguments.flatMap fun argument => separator :: argument

/-- A word: some letters, none of them a blank or a quote. -/
structure Word (rules : Quoting α) (word : List α) : Prop where
  proper : word ≠ []
  plain : ∀ letter ∈ word, rules.Plain false letter

omit [DecidableEq α] in
/-- A word that has been read ends the arguments. -/
theorem finish_of_reads {splitter next : Splitter α} {word : List α} (proper : word ≠ [])
    (start : splitter.current = none) (clear : splitter.pending = 0)
    (reads : Reads rules splitter word next) :
    rules.finish next = splitter.arguments ++ [word] := by
  obtain ⟨current, started⟩ := Option.isSome_iff_exists.mp (reads.current (.inr proper))
  rw [finish, started]
  simp only [reads.arguments, reads.letters]
  simp [Quoting.letters, start, clear]

/-- Words are read one by one. -/
theorem finish_run_words {splitter : Splitter α} (blank : rules.blank separator = true)
    (unquoted : splitter.quoted = false) (plain : ∀ argument ∈ arguments, rules.Word argument) :
    rules.finish (rules.run splitter (arguments.flatMap fun argument => separator :: argument)) =
      rules.finish splitter ++ arguments := by
  induction arguments generalizing splitter with
  | nil => simp
  | cons argument rest inductionHypothesis =>
      let ended : Splitter α := ⟨rules.finish splitter, none, 0, false⟩
      have word := plain argument List.mem_cons_self
      have reads : Reads rules ended argument (rules.run ended argument) := run_reads word.plain
      have finished : rules.finish (rules.run ended argument) =
          rules.finish splitter ++ [argument] :=
        finish_of_reads word.proper rfl rfl reads
      rw [List.flatMap_cons, run_append, run_cons, step_blank blank unquoted,
        inductionHypothesis reads.quoted fun other member => plain other
          (List.mem_cons_of_mem _ member), finished]
      simp

theorem split_words (blank : rules.blank separator = true) (word : rules.Word program)
    (plain : ∀ argument ∈ arguments, rules.Word argument) :
    rules.split (words separator program arguments) = program :: arguments := by
  have reads : Reads rules fresh program (rules.run fresh program) := run_reads word.plain
  rw [split, words, run_append, finish_run_words blank reads.quoted plain,
    finish_of_reads word.proper rfl rfl reads]
  rfl

/-- What has been read of a line without quotes: words, and maybe the beginning of one. -/
structure Wordly (rules : Quoting α) (splitter : Splitter α) : Prop where
  unquoted : splitter.quoted = false
  arguments : ∀ argument ∈ splitter.arguments, rules.Word argument
  proper : splitter.current.isSome → rules.letters splitter ≠ []
  plain : ∀ letter ∈ rules.letters splitter, rules.Plain false letter

omit [DecidableEq α] in
theorem Wordly.finish {splitter : Splitter α} (wordly : rules.Wordly splitter) :
    ∀ argument ∈ rules.finish splitter, rules.Word argument := by
  unfold Quoting.finish
  intro argument member
  cases current : splitter.current with
  | none =>
      rw [current] at member
      exact wordly.arguments argument member
  | some content =>
      rw [current] at member
      rcases List.mem_append.mp member with before | last
      · exact wordly.arguments argument before
      · rw [List.mem_singleton.mp last]
        exact ⟨wordly.proper (by rw [current]; rfl), wordly.plain⟩

theorem Wordly.step {splitter : Splitter α} {letter : α} (wordly : rules.Wordly splitter)
    (noQuote : letter ≠ rules.quote) : rules.Wordly (rules.step splitter letter) := by
  cases blank : rules.blank letter with
  | true =>
      rw [step_blank blank wordly.unquoted]
      exact ⟨rfl, wordly.finish, by simp, by simp [Quoting.letters]⟩
  | false =>
      have reads := step_reads ⟨noQuote, fun (_ : splitter.quoted = false) => blank⟩
      refine ⟨reads.quoted.trans wordly.unquoted, ?_, fun _ => ?_, fun other member => ?_⟩
      · rw [reads.arguments]
        exact wordly.arguments
      · rw [reads.letters]
        simp
      · rw [reads.letters] at member
        rcases List.mem_append.mp member with before | last
        · exact wordly.plain other before
        · rw [List.mem_singleton.mp last]
          exact ⟨noQuote, fun _ => blank⟩

/-- All that is read of a line without quotes are words. -/
theorem word_of_split {line : List α} (noQuote : rules.quote ∉ line) :
    ∀ argument ∈ rules.split line, rules.Word argument := by
  have run : ∀ {splitter : Splitter α}, rules.Wordly splitter →
      rules.Wordly (rules.run splitter line) := by
    induction line with
    | nil => exact fun wordly => wordly
    | cons letter rest inductionHypothesis =>
        intro splitter wordly
        have other : rules.quote ∉ rest := fun member =>
          noQuote (List.mem_cons_of_mem letter member)
        exact inductionHypothesis other
          (wordly.step fun same => noQuote (same ▸ List.mem_cons_self))
  exact (run ⟨rfl, by simp [fresh], by simp [fresh], by simp [fresh, Quoting.letters]⟩).finish

theorem size_words (blank : rules.blank separator = true) :
    rules.size (words separator program arguments) =
      rules.size program + rules.size arguments.flatten + arguments.length := by
  have notQuote : separator ≠ rules.quote := by
    rintro rfl
    exact absurd blank (by simp [rules.quote_not_blank])
  unfold words
  rw [size_append]
  induction arguments with
  | nil => simp
  | cons argument rest inductionHypothesis =>
      simp only [List.flatMap_cons, List.flatten_cons, size_append, size_cons, notQuote,
        ↓reduceIte, List.length_cons] at inductionHypothesis ⊢
      omega

/-- A line of arguments without quotes of their own is read back exactly when all of them
are words. -/
theorem split_words_iff (blank : rules.blank separator = true) :
    rules.split (words separator program arguments) = program :: arguments ↔
      ∀ word ∈ program :: arguments, rules.Word word := by
  constructor
  · intro read
    have bound : (rules.split (words separator program arguments)).flatten.countP
        (fun _ => true) + (rules.split (words separator program arguments)).length ≤
          rules.size (words separator program arguments) + 1 := split_weight_le _ _
    rw [read, List.countP_true, size_words blank, List.flatten_cons, List.length_cons] at bound
    have noQuote : rules.quote ∉ program ++ arguments.flatten := by
      refine no_quote_of_length_le ?_
      rw [size_append]
      omega
    rw [← read]
    refine word_of_split fun member => noQuote ?_
    rcases List.mem_append.mp member with inside | inside
    · exact List.mem_append_left _ inside
    · obtain ⟨argument, among, inside⟩ := List.mem_flatMap.mp inside
      rcases List.mem_cons.mp inside with same | inside
      · exact absurd blank (by simp [← same, rules.quote_not_blank])
      · exact List.mem_append_right _ (List.mem_flatten.mpr ⟨argument, among, inside⟩)
  · intro word
    exact split_words blank (word program List.mem_cons_self) fun argument member =>
      word argument (List.mem_cons_of_mem _ member)

end Words

end Quoting
end CheckerOlimp.Std
