import Mathlib.Algebra.BigOperators.Group.List.Basic
import Mathlib.Algebra.GroupWithZero.Nat
import Mathlib.Data.List.TakeWhile

/-! The text exposition format, version 0.0.4, on lists of characters: lines of
samples and comments, label values in quotes with a backslash, a quote and a
line feed escaped. What a page of samples decodes to, and how many backslashes
it takes. Which lines may follow which is not a matter of this grammar. -/
namespace PrometheusText

/-- A metric, its labels and its value as written. -/
structure Sample where
  name : List Char
  labels : List (List Char × List Char)
  value : List Char
  deriving DecidableEq, Repr

section Grammar

def isBlank (c : Char) : Bool := c = ' ' || c = '\t'

def skip (cs : List Char) : List Char := cs.dropWhile isBlank

/-- What stands between blanks. -/
def tokens (cs : List Char) : List (List Char) := (cs.splitOnP isBlank).filter (· ≠ [])

def labelStart (c : Char) : Bool := c.isAlpha || c = '_'

def labelRest (c : Char) : Bool := c.isAlphanum || c = '_'

def metricStart (c : Char) : Bool := labelStart c || c = ':'

def metricRest (c : Char) : Bool := labelRest c || c = ':'

/-- A first character of one kind, then any of another. -/
def isWord (first rest : Char → Bool) : List Char → Bool
  | [] => false
  | c :: cs => first c && cs.all rest

def isMetricName : List Char → Bool := isWord metricStart metricRest

def isLabelName : List Char → Bool := isWord labelStart labelRest

/-- The longest word in front. -/
def takeWord (first rest : Char → Bool) : List Char → Option (List Char × List Char)
  | [] => none
  | c :: cs => if first c then some (c :: cs.takeWhile rest, cs.dropWhile rest) else none

def unsigned : List Char → List Char
  | '+' :: cs => cs
  | '-' :: cs => cs
  | cs => cs

/-- What follows digits with a point among them. -/
def afterMantissa (digit : Char → Bool) (cs : List Char) : Option (List Char) :=
  match cs.dropWhile digit with
  | '.' :: rest =>
    if cs.takeWhile digit = [] ∧ rest.takeWhile digit = [] then none
    else some (rest.dropWhile digit)
  | rest => if cs.takeWhile digit = [] then none else some rest

def isExponent (mark : Char) : List Char → Bool
  | [] => false
  | c :: cs => c.toLower = mark && unsigned cs ≠ [] && (unsigned cs).all Char.isDigit

def isHexDigit (c : Char) : Bool := c.isDigit || ['a', 'b', 'c', 'd', 'e', 'f'].contains c.toLower

/-- A number as `ParseFloat` takes it: decimal, hexadecimal, or by name. -/
def isFloat (cs : List Char) : Bool :=
  cs.map Char.toLower = "nan".toList ||
  ["inf".toList, "infinity".toList].contains ((unsigned cs).map Char.toLower) ||
  (match afterMantissa Char.isDigit (unsigned cs) with
    | some rest => rest = [] || isExponent 'e' rest
    | none => false) ||
  match unsigned cs with
    | '0' :: x :: digits => x.toLower = 'x' && (match afterMantissa isHexDigit digits with
      | some rest => isExponent 'p' rest
      | none => false)
    | _ => false

/-- Milliseconds as `ParseInt` takes them, in 64 bits. -/
def isTimestamp (cs : List Char) : Bool :=
  let digits := unsigned cs
  let size := digits.foldl (fun n c => 10 * n + (c.toNat - '0'.toNat)) 0
  digits ≠ [] && digits.all Char.isDigit &&
    size < 2 ^ 63 + if cs.head? = some '-' then 1 else 0

/-- A quoted value from behind its first quote. -/
def unquote : List Char → Option (List Char × List Char)
  | [] => none
  | '\n' :: _ => none
  | '"' :: cs => some ([], cs)
  | '\\' :: '\\' :: cs => (unquote cs).map fun r => ('\\' :: r.1, r.2)
  | '\\' :: '"' :: cs => (unquote cs).map fun r => ('"' :: r.1, r.2)
  | '\\' :: 'n' :: cs => (unquote cs).map fun r => ('\n' :: r.1, r.2)
  | '\\' :: _ => none
  | c :: cs => (unquote cs).map fun r => (c :: r.1, r.2)

def takeLabel (cs : List Char) : Option ((List Char × List Char) × List Char) :=
  (takeWord labelStart labelRest cs).bind fun r =>
    match skip r.2 with
    | '=' :: cs =>
      match skip cs with
      | '"' :: cs => (unquote cs).map fun v => ((r.1, v.1), v.2)
      | _ => none
    | _ => none

/-- The labels from behind the opening brace; a comma may follow the last. -/
def takeLabels : Nat → List Char → Option (List (List Char × List Char) × List Char)
  | 0, _ => none
  | fuel + 1, cs =>
    (takeLabel (skip cs)).bind fun r =>
      match skip r.2 with
      | '}' :: cs => some ([r.1], cs)
      | ',' :: cs =>
        match skip cs with
        | '}' :: cs => some ([r.1], cs)
        | cs => (takeLabels fuel cs).map fun ls => (r.1 :: ls.1, ls.2)
      | _ => none

def takeLabelSet : List Char → Option (List (List Char × List Char) × List Char)
  | '{' :: cs => takeLabels cs.length cs
  | cs => some ([], cs)

def readSample (cs : List Char) : Option Sample :=
  (takeWord metricStart metricRest cs).bind fun r =>
    (takeLabelSet (skip r.2)).bind fun ls =>
      match tokens ls.2 with
      | [value] => if isFloat value then some ⟨r.1, ls.1, value⟩ else none
      | [value, time] => if isFloat value && isTimestamp time then some ⟨r.1, ls.1, value⟩ else none
      | _ => none

def kinds : List (List Char) :=
  ["counter".toList, "gauge".toList, "histogram".toList, "summary".toList, "untyped".toList]

/-- A comment from behind its mark. Two first words have a meaning. -/
def isComment (cs : List Char) : Bool :=
  match tokens cs with
  | [] => true
  | word :: rest =>
    if word = "TYPE".toList then
      match rest with
      | [name, kind] => isMetricName name && kinds.contains kind
      | _ => false
    else if word = "HELP".toList then
      match rest with
      | name :: _ => isMetricName name
      | [] => false
    else true

/-- A line, which may be empty or a comment. -/
def readLine (cs : List Char) : Option (Option Sample) :=
  match skip cs with
  | [] => some none
  | '#' :: cs => if isComment cs then some none else none
  | cs => (readSample cs).map some

def readLines : List (List Char) → Option (List Sample)
  | [] => some []
  | l :: ls => (readLine l).bind fun s => (readLines ls).map fun ss => s.toList ++ ss

/-- A page, whose last line is ended like the others. -/
def parse (text : List Char) : Option (List Sample) :=
  if (text.splitOn '\n').getLast? = some [] then readLines (text.splitOn '\n') else none

end Grammar

section Writing

def escapeChar (c : Char) : List Char :=
  if c = '\\' then ['\\', '\\'] else if c = '"' then ['\\', '"'] else if c = '\n' then ['\\', 'n']
  else [c]

def escape (v : List Char) : List Char := v.flatMap escapeChar

theorem escape_cons (c : Char) (v : List Char) : escape (c :: v) = escapeChar c ++ escape v :=
  List.flatMap_cons

def labelText (l : List Char × List Char) : List Char := l.1 ++ '=' :: '"' :: (escape l.2 ++ ['"'])

def labelSetText (ls : List (List Char × List Char)) : List Char :=
  if ls = [] then [] else '{' :: ([','].intercalate (ls.map labelText) ++ ['}'])

def Sample.text (s : Sample) : List Char := s.name ++ (labelSetText s.labels ++ ' ' :: s.value)

def typeText (name kind : List Char) : List Char := "# TYPE ".toList ++ (name ++ ' ' :: kind)

/-- Samples, each under a line with its metric's kind. -/
def page (entries : List (List Char × Sample)) : List Char :=
  entries.flatMap fun e => typeText e.2.name e.1 ++ '\n' :: (e.2.text ++ ['\n'])

end Writing

section RoundTrip

variable {first rest : Char → Bool} {w cs tail v : List Char} {c : Char}

/-- A quoted value is what its escape is. -/
theorem unquote_escape (v tail : List Char) : unquote (escape v ++ '"' :: tail) = some (v, tail) := by
  induction v with
  | nil => rfl
  | cons c v ih =>
    rw [escape_cons, List.append_assoc, escapeChar]
    by_cases slash : c = '\\'
    · subst slash
      simp [unquote, ih]
    by_cases quote : c = '"'
    · subst quote
      simp [unquote, ih]
    by_cases newline : c = '\n'
    · subst newline
      simp [unquote, ih]
    · simp [unquote, ih, slash, quote, newline]

theorem escape_of_unquote (read : unquote cs = some (v, tail)) : cs = escape v ++ '"' :: tail := by
  fun_induction unquote cs generalizing v tail with
  | case1 | case2 | case7 => cases read
  | case3 cs =>
    cases read
    rfl
  | case4 cs ih | case5 cs ih | case6 cs ih =>
    obtain ⟨⟨v, tail⟩, inner, same⟩ := Option.map_eq_some_iff.mp read
    cases same
    rw [ih inner]
    rfl
  | case8 c cs newline quote _ _ _ slash ih =>
    obtain ⟨⟨v, tail⟩, inner, same⟩ := Option.map_eq_some_iff.mp read
    cases same
    have plain : escape (c :: v) = c :: escape v := by
      rw [escape_cons, escapeChar, if_neg slash, if_neg quote, if_neg newline]
      rfl
    rw [plain, ih inner]
    rfl

theorem skip_cons (visible : isBlank c = false) (cs : List Char) : skip (c :: cs) = c :: cs := by
  simp [skip, visible]

/-- Characters inside and outside of a class differ. -/
theorem ne_of_class {p : Char → Bool} {d : Char} (inside : p c = true) (outside : p d = false) :
    c ≠ d := by
  rintro rfl
  rw [inside] at outside
  cases outside

theorem cons_of_isWord (word : isWord first rest w = true) :
    ∃ c cs, w = c :: cs ∧ first c = true ∧ ∀ d ∈ cs, rest d = true := by
  cases w with
  | nil => cases word
  | cons c cs =>
    obtain ⟨start, others⟩ := Bool.and_eq_true_iff.mp word
    exact ⟨c, cs, rfl, start, List.all_eq_true.mp others⟩

/-- A word is taken up to what cannot belong to it. -/
theorem takeWord_append (word : isWord first rest w = true) (ends : ∀ c ∈ tail.head?, rest c = false) :
    takeWord first rest (w ++ tail) = some (w, tail) := by
  obtain ⟨c, cs, rfl, start, all⟩ := cons_of_isWord word
  have none : tail.takeWhile rest = [] ∧ tail.dropWhile rest = tail := by
    cases tail with
    | nil => exact ⟨rfl, rfl⟩
    | cons d tail =>
      have no : rest d = false := ends d rfl
      simp [no]
  simp [takeWord, start, List.takeWhile_append_of_pos all, List.dropWhile_append_of_pos all, none]

/-- A label is read back. -/
theorem takeLabel_labelText {l : List Char × List Char} (named : isLabelName l.1 = true)
    (tail : List Char) : takeLabel (labelText l ++ tail) = some (l, tail) := by
  have ends : ∀ c ∈ ('=' :: '"' :: (escape l.2 ++ '"' :: tail)).head?, labelRest c = false := by
    intro c head
    cases Option.mem_some.mp head
    decide
  have word := takeWord_append named ends
  have shape : labelText l ++ tail = l.1 ++ '=' :: '"' :: (escape l.2 ++ '"' :: tail) := by
    simp [labelText]
  rw [takeLabel, shape, word]
  simp [skip_cons (show isBlank '=' = false by decide), skip_cons (show isBlank '"' = false by decide),
    unquote_escape]

theorem metricStart_of_labelStart (start : labelStart c = true) : metricStart c = true := by
  simp [metricStart, start]

theorem isBlank_of_metricStart (start : metricStart c = true) : isBlank c = false := by
  have space : c ≠ ' ' := ne_of_class start (by decide)
  have tab : c ≠ '\t' := ne_of_class start (by decide)
  simp [isBlank, space, tab]

/-- A label starts with a character of its name. -/
theorem labelText_eq_cons {l : List Char × List Char} (named : isLabelName l.1 = true) :
    ∃ c cs, labelText l = c :: cs ∧ metricStart c = true := by
  obtain ⟨c, cs, front, start, _⟩ := cons_of_isWord named
  exact ⟨c, _, congrArg (· ++ _) front, metricStart_of_labelStart start⟩

/-- Labels between commas, and a brace behind them, are read back. -/
theorem takeLabels_text {ls : List (List Char × List Char)} (some : ls ≠ [])
    (named : ∀ l ∈ ls, isLabelName l.1 = true) (tail : List Char) (fuel : Nat)
    (enough : ls.length ≤ fuel) :
    takeLabels fuel ([','].intercalate (ls.map labelText) ++ '}' :: tail) = .some (ls, tail) := by
  induction ls generalizing fuel with
  | nil => exact absurd rfl some
  | cons l ls ih =>
    obtain ⟨fuel, rfl⟩ : ∃ n, fuel = n + 1 := by
      have positive : 1 ≤ fuel := Nat.le_trans (by simp) enough
      exact ⟨fuel - 1, by omega⟩
    have name : isLabelName l.1 = true := named l List.mem_cons_self
    obtain ⟨c, cs, front, start⟩ := labelText_eq_cons name
    have kept (more : List Char) : skip (labelText l ++ more) = labelText l ++ more := by
      rw [front]
      exact skip_cons (isBlank_of_metricStart start) _
    have brace := skip_cons (c := '}') (by decide)
    have comma := skip_cons (c := ',') (by decide)
    cases ls with
    | nil => simp [takeLabels, kept, takeLabel_labelText name, brace]
    | cons next ls =>
      have inner := ih (List.cons_ne_nil _ _)
        (fun l' member => named l' (List.mem_cons_of_mem _ member)) fuel (by simpa using enough)
      obtain ⟨d, ds, nextFront, nextStart⟩ := labelText_eq_cons (named next (by simp))
      obtain ⟨more, shape⟩ : ∃ more,
          [','].intercalate ((next :: ls).map labelText) ++ '}' :: tail = d :: more := by
        rw [List.map_cons, nextFront]
        cases ls <;> simp
      have notBrace : d ≠ '}' := ne_of_class nextStart (by decide)
      have text : [','].intercalate ((l :: next :: ls).map labelText) ++ '}' :: tail =
          labelText l ++ ',' :: (d :: more) := by
        rw [← shape]
        simp
      rw [shape] at inner
      rw [text, takeLabels, kept, takeLabel_labelText name]
      simp [comma, skip_cons (isBlank_of_metricStart nextStart), notBrace, inner]

/-- What a sample has to be for a page of it to be read. -/
structure Sample.Valid (s : Sample) : Prop where
  name : isMetricName s.name = true
  labels : ∀ l ∈ s.labels, isLabelName l.1 = true
  value : isFloat s.value = true
  /-- The value is one token. -/
  token : ∀ c ∈ s.value, isBlank c = false ∧ c ≠ '\n'

theorem visible_of_all (visible : w.all (!isBlank ·) = true) : ∀ c ∈ w, isBlank c = false := by
  intro c member
  simpa using List.all_eq_true.mp visible c member

/-- A word with nothing blank in it, behind a blank. -/
theorem tokens_blank_append (word : ∀ c ∈ w, isBlank c = false) (filled : w ≠ []) (tail : List Char) :
    tokens (w ++ ' ' :: tail) = w :: tokens tail := by
  rw [tokens, List.splitOnP_append_cons_of_forall_mem word ' ' (by decide), List.filter_cons_of_pos
    (by simpa using filled)]
  rfl

theorem tokens_word (word : ∀ c ∈ w, isBlank c = false) (filled : w ≠ []) : tokens w = [w] := by
  rw [tokens, List.splitOnP_eq_singleton word]
  simp [filled]

theorem tokens_space (cs : List Char) : tokens (' ' :: cs) = tokens cs := by
  rw [tokens, List.splitOnP_cons_eq_if_modifyHead]
  simp [tokens, isBlank]

/-- Digits, or digits on both sides of a point, with or without a minus sign. -/
theorem isFloat_decimal {sign whole fraction : List Char} (signed : sign = [] ∨ sign = ['-'])
    (filled : whole ≠ []) (digits : ∀ c ∈ whole, c.isDigit = true)
    (ends : fraction = [] ∨ ∃ ds, fraction = '.' :: ds ∧ ∀ c ∈ ds, c.isDigit = true) :
    isFloat (sign ++ (whole ++ fraction)) = true := by
  have body : unsigned (sign ++ (whole ++ fraction)) = whole ++ fraction := by
    obtain ⟨d, ds, rfl⟩ := List.exists_cons_of_ne_nil filled
    have digit : d.isDigit = true := digits d List.mem_cons_self
    have plus : d ≠ '+' := ne_of_class digit (by decide)
    have minus : d ≠ '-' := ne_of_class digit (by decide)
    rcases signed with rfl | rfl
    · simp [unsigned, plus, minus]
    · rfl
  have mantissa : afterMantissa Char.isDigit (whole ++ fraction) = some [] := by
    unfold afterMantissa
    rw [List.takeWhile_append_of_pos digits, List.dropWhile_append_of_pos digits]
    rcases ends with rfl | ⟨ds, rfl, all⟩
    · simp [filled]
    · simpa [filled, List.dropWhile_eq_nil_iff] using all
  simp [isFloat, body, mantissa]

/-- A number does not start with a brace. -/
theorem ne_brace_of_isFloat (number : isFloat (c :: cs) = true) : c ≠ '{' := by
  rintro rfl
  simp [isFloat, unsigned, afterMantissa] at number

/-- There are no more labels than characters. -/
theorem length_le_intercalate (ls : List (List Char × List Char)) :
    ls.length ≤ ([','].intercalate (ls.map labelText)).length := by
  induction ls with
  | nil => simp
  | cons l ls ih =>
    have positive : 1 ≤ (labelText l).length := by
      simp only [labelText, List.length_append, List.length_cons]
      omega
    cases ls with
    | nil => simpa using positive
    | cons next ls =>
      simp only [List.map_cons, List.intercalate_cons_cons, List.length_append, List.length_cons] at ih ⊢
      omega

/-- Behind the name come the labels, and then the value alone. -/
theorem takeLabelSet_text {s : Sample} (valid : s.Valid) : ∃ after,
    takeLabelSet (skip (labelSetText s.labels ++ ' ' :: s.value)) = some (s.labels, after) ∧
      tokens after = [s.value] := by
  have word : ∀ c ∈ s.value, isBlank c = false := fun c member => (valid.token c member).1
  obtain ⟨c, cs, front⟩ : ∃ c cs, s.value = c :: cs := by
    apply List.exists_cons_of_ne_nil
    intro empty
    have number := valid.value
    rw [empty] at number
    cases number
  have alone : tokens s.value = [s.value] := tokens_word word (by simp [front])
  by_cases none : s.labels = []
  · refine ⟨s.value, ?_, alone⟩
    have visible : isBlank c = false := word c (by simp [front])
    have notBrace : c ≠ '{' := by
      have number : isFloat (c :: cs) = true := front ▸ valid.value
      exact ne_brace_of_isFloat number
    have skipped : skip (' ' :: c :: cs) = c :: cs := skip_cons visible cs
    simp [labelSetText, none, front, skipped, takeLabelSet, notBrace]
  · refine ⟨' ' :: s.value, ?_, by rw [tokens_space, alone]⟩
    have text : labelSetText s.labels ++ ' ' :: s.value =
        '{' :: ([','].intercalate (s.labels.map labelText) ++ '}' :: ' ' :: s.value) := by
      simp [labelSetText, none]
    rw [text, skip_cons (by decide)]
    apply takeLabels_text none valid.labels
    exact Nat.le_trans (length_le_intercalate s.labels) (by simp)

/-- A sample is read back. -/
theorem readSample_text {s : Sample} (valid : s.Valid) : readSample s.text = some s := by
  have ends : ∀ c ∈ (labelSetText s.labels ++ ' ' :: s.value).head?, metricRest c = false := by
    unfold labelSetText
    split <;> simp <;> decide
  obtain ⟨after, labels, value⟩ := takeLabelSet_text valid
  have name : takeWord metricStart metricRest s.text = _ := takeWord_append valid.name ends
  simp [readSample, name, labels, value, valid.value]

theorem readLine_text {s : Sample} (valid : s.Valid) : readLine s.text = some (some s) := by
  have read := readSample_text valid
  obtain ⟨c, cs, front, start, _⟩ := cons_of_isWord valid.name
  have shape : s.text = c :: (cs ++ (labelSetText s.labels ++ ' ' :: s.value)) := by
    rw [Sample.text, front]
    rfl
  have notComment : c ≠ '#' := ne_of_class start (by decide)
  rw [shape] at read ⊢
  simp [readLine, skip_cons (isBlank_of_metricStart start), notComment, read]

theorem metricRest_of_metricStart (start : metricStart c = true) : metricRest c = true := by
  simp only [metricStart, metricRest, labelStart, labelRest, Char.isAlphanum, Bool.or_eq_true] at start ⊢
  rcases start with (letter | underscore) | colon
  · exact .inl (.inl (.inl letter))
  · exact .inl (.inr underscore)
  · exact .inr colon

theorem metricRest_of_isMetricName {name : List Char} (named : isMetricName name = true)
    (member : c ∈ name) : metricRest c = true := by
  obtain ⟨d, ds, rfl, start, all⟩ := cons_of_isWord named
  rcases List.mem_cons.mp member with rfl | later
  · exact metricRest_of_metricStart start
  · exact all c later

/-- What has no part in a name is not in one. -/
theorem not_mem_of_isMetricName {name : List Char} (named : isMetricName name = true)
    (mark : metricRest c = false) : c ∉ name := by
  intro member
  exact ne_of_class (metricRest_of_isMetricName named member) mark rfl

theorem isBlank_of_isMetricName {name : List Char} (named : isMetricName name = true)
    (member : c ∈ name) : isBlank c = false := by
  have inside := metricRest_of_isMetricName named member
  have space : c ≠ ' ' := ne_of_class inside (by decide)
  have tab : c ≠ '\t' := ne_of_class inside (by decide)
  simp [isBlank, space, tab]

/-- The words of the line with a metric's kind, behind its mark. -/
theorem tokens_type {name kind : List Char} (named : isMetricName name = true) (known : kind ∈ kinds) :
    tokens (' ' :: ("TYPE".toList ++ ' ' :: (name ++ ' ' :: kind))) = ["TYPE".toList, name, kind] := by
  have kinds_visible : ∀ kind ∈ kinds, kind ≠ [] ∧ kind.all (!isBlank ·) = true := by decide
  obtain ⟨filled, visible⟩ := kinds_visible kind known
  have nonempty : name ≠ [] := by
    rintro rfl
    cases named
  rw [tokens_space, tokens_blank_append (visible_of_all (by decide)) (by decide),
    tokens_blank_append (fun c => isBlank_of_isMetricName named) nonempty,
    tokens_word (visible_of_all visible) filled]

/-- The line with a metric's kind is a comment. -/
theorem readLine_typeText {name kind : List Char} (named : isMetricName name = true)
    (known : kind ∈ kinds) : readLine (typeText name kind) = some none := by
  have comment : isComment (' ' :: ("TYPE".toList ++ ' ' :: (name ++ ' ' :: kind))) = true := by
    simp only [isComment, tokens_type named known]
    simp [named, known]
  have shape : typeText name kind = '#' :: ' ' :: ("TYPE".toList ++ ' ' :: (name ++ ' ' :: kind)) := rfl
  rw [shape, readLine, skip_cons (by decide)]
  simp only [comment, if_true]

/-- No line feed is left in an escaped value. -/
theorem newline_not_mem_escape (v : List Char) : '\n' ∉ escape v := by
  intro member
  obtain ⟨c, _, inside⟩ := List.mem_flatMap.mp member
  unfold escapeChar at inside
  split at inside
  · simp at inside
  · split at inside
    · simp at inside
    · split at inside
      · simp at inside
      · rename_i newline
        exact newline (List.mem_singleton.mp inside).symm

/-- What is neither in a name nor in the words around it is not in the line with
a metric's kind. -/
theorem not_mem_typeText {name kind : List Char} {d : Char} (named : isMetricName name = true)
    (known : kind ∈ kinds) (mark : metricRest d = false) (outside : d ∉ "# TYPE ".toList)
    (other : ∀ kind ∈ kinds, d ∉ kind) : d ∉ typeText name kind := by
  intro member
  rcases List.mem_append.mp member with front | more
  · exact outside front
  rcases List.mem_append.mp more with inside | last
  · exact not_mem_of_isMetricName named mark inside
  rcases List.mem_cons.mp last with rfl | inside
  · exact outside (by decide)
  · exact other kind known inside

theorem isMetricName_of_isLabelName {name : List Char} (named : isLabelName name = true) :
    isMetricName name = true := by
  obtain ⟨c, cs, rfl, start, all⟩ := cons_of_isWord named
  refine Bool.and_eq_true_iff.mpr ⟨metricStart_of_labelStart start, List.all_eq_true.mpr ?_⟩
  intro d member
  simp [metricRest, all d member]

theorem not_mem_intercalate {sep : List Char} {ls : List (List Char)} (outside : c ∉ sep)
    (inside : ∀ l ∈ ls, c ∉ l) : c ∉ sep.intercalate ls := by
  induction ls with
  | nil => simp
  | cons l ls ih =>
    have rest := ih fun l' member => inside l' (List.mem_cons_of_mem _ member)
    have here := inside l List.mem_cons_self
    cases ls with
    | nil => simpa using here
    | cons next ls =>
      rw [List.intercalate_cons_cons]
      simp only [List.mem_append, not_or]
      exact ⟨⟨here, outside⟩, rest⟩

theorem newline_not_mem_text {s : Sample} (valid : s.Valid) : '\n' ∉ s.text := by
  have labels : ∀ l ∈ s.labels, '\n' ∉ labelText l := by
    intro l member inside
    have named := isMetricName_of_isLabelName (valid.labels l member)
    have name : '\n' ∉ l.1 := not_mem_of_isMetricName named (by decide)
    simp [labelText, name, newline_not_mem_escape] at inside
  have labelSet : '\n' ∉ labelSetText s.labels := by
    unfold labelSetText
    split
    · simp
    · have inner : '\n' ∉ [','].intercalate (s.labels.map labelText) := by
        apply not_mem_intercalate (by decide)
        intro text member
        obtain ⟨l, inside, rfl⟩ := List.mem_map.mp member
        exact labels l inside
      simp [inner]
  have name : '\n' ∉ s.name := not_mem_of_isMetricName valid.name (by decide)
  have value : '\n' ∉ s.value := fun inside => (valid.token _ inside).2 rfl
  simp [Sample.text, name, labelSet, value]

/-- A text is split into the lines it was written as, and an empty one. -/
theorem splitOn_lines {ls : List (List Char)} (single : ∀ l ∈ ls, '\n' ∉ l) :
    (ls.flatMap (· ++ ['\n'])).splitOn '\n' = ls ++ [[]] := by
  induction ls with
  | nil => simp
  | cons l ls ih =>
    have rest := ih fun l' member => single l' (List.mem_cons_of_mem _ member)
    rw [List.flatMap_cons, List.append_assoc, List.singleton_append,
      List.splitOn_append_cons_self_of_not_mem (single l List.mem_cons_self), rest]
    rfl

/-- A page is split into the lines of its samples and their kinds. -/
theorem splitOn_page {entries : List (List Char × Sample)}
    (valid : ∀ e ∈ entries, e.1 ∈ kinds ∧ e.2.Valid) :
    (page entries).splitOn '\n' =
      entries.flatMap (fun e => [typeText e.2.name e.1, e.2.text]) ++ [[]] := by
  have lines : page entries =
      (entries.flatMap fun e => [typeText e.2.name e.1, e.2.text]).flatMap (· ++ ['\n']) := by
    simp [page, List.flatMap_assoc]
  rw [lines, splitOn_lines]
  intro l inside
  obtain ⟨e, member, line⟩ := List.mem_flatMap.mp inside
  obtain ⟨known, sample⟩ := valid e member
  simp only [List.mem_cons, List.not_mem_nil, or_false] at line
  rcases line with rfl | rfl
  · exact not_mem_typeText sample.name known (by decide) (by decide) (by decide)
  · exact newline_not_mem_text sample

/-- A page of valid samples is read back, whatever the values of their labels. -/
theorem parse_page {entries : List (List Char × Sample)}
    (valid : ∀ e ∈ entries, e.1 ∈ kinds ∧ e.2.Valid) :
    parse (page entries) = some (entries.map (·.2)) := by
  have lines (entries : List (List Char × Sample)) (valid : ∀ e ∈ entries, e.1 ∈ kinds ∧ e.2.Valid) :
      readLines (entries.flatMap (fun e => [typeText e.2.name e.1, e.2.text]) ++ [[]]) =
        some (entries.map (·.2)) := by
    induction entries with
    | nil => rfl
    | cons e entries ih =>
      obtain ⟨known, sample⟩ := valid e List.mem_cons_self
      have rest := ih fun e' member => valid e' (List.mem_cons_of_mem _ member)
      simp [readLines, readLine_typeText sample.name known, readLine_text sample, rest]
  rw [parse, splitOn_page valid, if_pos (by simp)]
  exact lines entries valid

end RoundTrip

section Backslashes

variable {first rest : Char → Bool} {w cs tail v : List Char}

/-- How many backslashes escaped label values take. -/
def Sample.cost (s : Sample) : Nat := (s.labels.map fun l => (escape l.2).count '\\').sum

theorem count_skip (cs : List Char) : (skip cs).count '\\' ≤ cs.count '\\' :=
  (List.dropWhile_sublist _).count_le _

theorem count_of_takeWord (took : takeWord first rest cs = some (w, tail)) :
    tail.count '\\' ≤ cs.count '\\' := by
  cases cs with
  | nil => cases took
  | cons c cs =>
    simp only [takeWord] at took
    split at took
    · cases took
      exact ((List.dropWhile_sublist _).trans (List.sublist_cons_self c cs)).count_le _
    · cases took

theorem count_of_takeLabel {l : List Char × List Char} (took : takeLabel cs = some (l, tail)) :
    (escape l.2).count '\\' + tail.count '\\' ≤ cs.count '\\' := by
  obtain ⟨⟨name, after⟩, word, more⟩ := Option.bind_eq_some_iff.mp took
  have behind := count_of_takeWord word
  have skipped := count_skip after
  split at more
  · rename_i cs equals
    have equals : skip after = '=' :: cs := equals
    have opened := count_skip cs
    split at more
    · rename_i cs' quotes
      obtain ⟨⟨value, rest⟩, quoted, same⟩ := Option.map_eq_some_iff.mp more
      cases same
      have inner := congrArg (List.count '\\') (escape_of_unquote quoted)
      rw [quotes] at opened
      rw [equals] at skipped
      simp at inner opened skipped
      change (escape value).count '\\' + rest.count '\\' ≤ _
      omega
    · cases more
  · cases more

theorem count_of_takeLabels {ls : List (List Char × List Char)} (fuel : Nat)
    (took : takeLabels fuel cs = some (ls, tail)) :
    (ls.map fun l => (escape l.2).count '\\').sum + tail.count '\\' ≤ cs.count '\\' := by
  induction fuel generalizing cs ls with
  | zero => cases took
  | succ fuel ih =>
    obtain ⟨⟨l, after⟩, label, more⟩ := Option.bind_eq_some_iff.mp took
    have here := count_of_takeLabel label
    have front := count_skip cs
    have skipped := count_skip after
    split at more
    · rename_i cs' brace
      have brace : skip after = '}' :: cs' := brace
      cases more
      rw [brace] at skipped
      simp at skipped ⊢
      omega
    · rename_i cs' comma
      have comma : skip after = ',' :: cs' := comma
      have opened := count_skip cs'
      rw [comma] at skipped
      split at more
      · rename_i cs'' brace
        cases more
        rw [brace] at opened
        simp at skipped opened ⊢
        omega
      · obtain ⟨⟨others, rest⟩, inner, same⟩ := Option.map_eq_some_iff.mp more
        cases same
        have later := ih inner
        simp at skipped later ⊢
        omega
    · cases more

theorem count_of_readSample {s : Sample} (read : readSample cs = some s) :
    s.cost ≤ cs.count '\\' := by
  obtain ⟨⟨name, after⟩, word, more⟩ := Option.bind_eq_some_iff.mp read
  obtain ⟨⟨ls, rest⟩, labels, more⟩ := Option.bind_eq_some_iff.mp more
  have behind := count_of_takeWord word
  have skipped := count_skip after
  have taken : (ls.map fun l => (escape l.2).count '\\').sum ≤ (skip after).count '\\' := by
    unfold takeLabelSet at labels
    split at labels
    · rename_i cs brace
      have inner := count_of_takeLabels _ labels
      have brace : skip after = '{' :: cs := brace
      rw [brace]
      simp
      omega
    · cases labels
      simp
  have same : s.labels = ls := by
    split at more
    · split at more
      · cases more
        rfl
      · cases more
    · split at more
      · cases more
        rfl
      · cases more
    · cases more
  rw [Sample.cost, same]
  omega

theorem count_of_readLine {s : Sample} (read : readLine cs = some (some s)) :
    s.cost ≤ cs.count '\\' := by
  have skipped := count_skip cs
  unfold readLine at read
  split at read
  · cases read
  · split at read <;> cases read
  · obtain ⟨s', sample, same⟩ := Option.map_eq_some_iff.mp read
    cases same
    exact Nat.le_trans (count_of_readSample sample) skipped

theorem count_of_readLines {ls : List (List Char)} {ss : List Sample} (read : readLines ls = some ss) :
    (ss.map Sample.cost).sum ≤ (ls.map (List.count '\\')).sum := by
  induction ls generalizing ss with
  | nil =>
    cases read
    simp
  | cons l ls ih =>
    obtain ⟨s, line, more⟩ := Option.bind_eq_some_iff.mp read
    obtain ⟨others, rest, rfl⟩ := Option.map_eq_some_iff.mp more
    have later := ih rest
    cases s with
    | none =>
      simp only [Option.toList_none, List.nil_append, List.map_cons, List.sum_cons]
      omega
    | some s =>
      have here := count_of_readLine line
      simp only [Option.toList_some, List.singleton_append, List.map_cons, List.sum_cons]
      omega

/-- A separator adds only what is in it. -/
theorem count_intercalate {sep : List Char} {c : Char} (outside : c ∉ sep) (ls : List (List Char)) :
    (sep.intercalate ls).count c = (ls.map (List.count c)).sum := by
  induction ls with
  | nil => simp
  | cons l ls ih =>
    cases ls with
    | nil => simp
    | cons next ls =>
      rw [List.intercalate_cons_cons, List.map_cons, List.sum_cons, List.count_append,
        List.count_append, List.count_eq_zero.mpr outside, ih]
      omega

/-- A page has as many backslashes as the label values it decodes to need. -/
theorem count_of_parse {text : List Char} {ss : List Sample} (read : parse text = some ss) :
    (ss.map Sample.cost).sum ≤ text.count '\\' := by
  unfold parse at read
  split at read
  · have lines := count_of_readLines read
    have whole := count_intercalate (show '\\' ∉ ['\n'] by decide) (text.splitOn '\n')
    rw [List.intercalate_splitOn] at whole
    omega
  · cases read

/-- A label value with nothing in it to be escaped. -/
def Plain (v : List Char) : Prop := ∀ c ∈ v, c ≠ '\\' ∧ c ≠ '"' ∧ c ≠ '\n'

theorem escape_of_plain (plain : Plain v) : escape v = v := by
  induction v with
  | nil => rfl
  | cons c v ih =>
    obtain ⟨slash, quote, newline⟩ := plain c List.mem_cons_self
    have rest := ih fun d member => plain d (List.mem_cons_of_mem _ member)
    rw [escape_cons, rest, escapeChar, if_neg slash, if_neg quote, if_neg newline]
    rfl

/-- Escaping takes as many backslashes as there are, and one for each character
escaped. -/
theorem count_escape (v : List Char) :
    (escape v).count '\\' = v.count '\\' + v.countP (['\\', '"', '\n'].contains ·) := by
  induction v with
  | nil => rfl
  | cons c v ih =>
    rw [escape_cons, List.count_append, ih, escapeChar, List.count_cons, List.countP_cons]
    by_cases slash : c = '\\'
    · subst slash
      simp
      omega
    by_cases quote : c = '"'
    · subst quote
      simp
      omega
    by_cases newline : c = '\n'
    · subst newline
      simp
      omega
    · simp [slash, quote, newline]

theorem plain_of_count (bare : (escape v).count '\\' ≤ v.count '\\') : Plain v := by
  have none : v.countP (['\\', '"', '\n'].contains ·) = 0 := by
    have exact := count_escape v
    omega
  intro c member
  simpa using List.countP_eq_zero.mp none c member

/-- Values that take no more backslashes than they have are plain. -/
theorem plain_of_sum {vs : List (List Char)}
    (bare : (vs.map fun v => (escape v).count '\\').sum ≤ (vs.map (List.count '\\')).sum) :
    ∀ v ∈ vs, Plain v := by
  have least (vs : List (List Char)) :
      (vs.map (List.count '\\')).sum ≤ (vs.map fun v => (escape v).count '\\').sum := by
    induction vs with
    | nil => simp
    | cons v vs ih =>
      simp only [List.map_cons, List.sum_cons, count_escape v]
      omega
  induction vs with
  | nil => simp
  | cons v vs ih =>
    have rest := least vs
    have here := count_escape v
    simp only [List.map_cons, List.sum_cons] at bare
    intro w member
    rcases List.mem_cons.mp member with rfl | later
    · apply plain_of_count
      omega
    · apply ih _ w later
      omega

/-- The label values of samples, in order. -/
def labelValues (ss : List Sample) : List (List Char) := ss.flatMap fun s => s.labels.map (·.2)

theorem sum_cost (ss : List Sample) :
    (ss.map Sample.cost).sum = ((labelValues ss).map fun v => (escape v).count '\\').sum := by
  induction ss with
  | nil => rfl
  | cons s ss ih =>
    simp only [labelValues] at ih ⊢
    simp [ih, Sample.cost, Function.comp_def]

/-- A page that decodes to samples, and has no more backslashes than their label
values do, has only plain ones. -/
theorem plain_of_parse {text : List Char} {ss : List Sample} (read : parse text = some ss)
    (bare : text.count '\\' ≤ ((labelValues ss).map (List.count '\\')).sum) :
    ∀ v ∈ labelValues ss, Plain v := by
  apply plain_of_sum
  have needed := count_of_parse read
  rw [sum_cost] at needed
  exact Nat.le_trans needed bare

end Backslashes

end PrometheusText
