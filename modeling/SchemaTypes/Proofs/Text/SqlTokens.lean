import SchemaTypes.Text.Quoted

/-!
# Tokens of SQL texts

A SQL text is read one character at a time into names between backticks, words and signs. Inside
a name two backticks are one and a single one ends the name. A quoted name is read back as one
token whatever it holds, as long as no further backtick follows it.
-/

set_option autoImplicit false

namespace SchemaTypes.Sql

inductive Token where
  | name (text : String)
  | word (text : String)
  | sign (c : Char)
  deriving DecidableEq, Repr

inductive Reading where
  | gap
  | word (read : List Char)
  | name (read : List Char)
  /-- after a backtick inside a name: the first of two or the end of the name -/
  | backtick (read : List Char)
  deriving DecidableEq, Repr

def isWordChar (c : Char) : Bool := c.isAlphanum || c == '_' || c == '$'

def isSign (c : Char) : Bool := ['(', ')', ',', '=', '?'].contains c

/-- The start of a token, or a blank. Characters that start neither stand inside names only. -/
def start (c : Char) : Option (List Token × Reading) :=
  if c = ' ' then some ([], .gap)
  else if c = Text.backtick then some ([], .name [])
  else if isWordChar c then some ([], .word [c])
  else if isSign c then some ([.sign c], .gap)
  else none

def startAfter (t : Token) (c : Char) : Option (List Token × Reading) :=
  (start c).map fun s => (t :: s.1, s.2)

def step : Reading → Char → Option (List Token × Reading)
  | .gap, c => start c
  | .word cs, c =>
    if isWordChar c then some ([], .word (cs ++ [c])) else startAfter (.word (.ofList cs)) c
  | .name cs, c =>
    if c = Text.backtick then some ([], .backtick cs) else some ([], .name (cs ++ [c]))
  | .backtick cs, c =>
    if c = Text.backtick then some ([], .name (cs ++ [c])) else startAfter (.name (.ofList cs)) c

def run (r : Reading) : List Char → Option (List Token × Reading)
  | [] => some ([], r)
  | c :: cs => (step r c).bind fun s => (run s.2 cs).map fun u => (s.1 ++ u.1, u.2)

def finish : Reading → Option (List Token)
  | .gap => some []
  | .word cs => some [.word (.ofList cs)]
  | .name _ => none
  | .backtick cs => some [.name (.ofList cs)]

def lex (r : Reading) (text : List Char) : Option (List Token) :=
  (run r text).bind fun s => (finish s.2).map (s.1 ++ ·)

def tokens? (text : List Char) : Option (List Token) := lex .gap text

theorem lex_cons (r : Reading) (c : Char) (cs : List Char) :
    lex r (c :: cs) = (step r c).bind fun s => (lex s.2 cs).map (s.1 ++ ·) := by
  rw [lex, run]
  cases step r c with
  | none => rfl
  | some s =>
    cases h : run s.2 cs with
    | none => simp [lex, h]
    | some u => simp [lex, h, Function.comp_def]

theorem lex_append (r : Reading) (cs ds : List Char) :
    lex r (cs ++ ds) = (run r cs).bind fun s => (lex s.2 ds).map (s.1 ++ ·) := by
  induction cs generalizing r with
  | nil => simp [run]
  | cons c cs ih =>
    rw [List.cons_append, lex_cons, run]
    cases step r c with
    | none => rfl
    | some s =>
      cases h : run s.2 cs with
      | none => simp [ih, h]
      | some u => simp [ih, h, Function.comp_def]

theorem lex_start_after (t : Token) (c : Char) (cs : List Char) :
    ((startAfter t c).bind fun s => (lex s.2 cs).map (s.1 ++ ·)) =
      (lex .gap (c :: cs)).map (t :: ·) := by
  rw [startAfter, lex_cons, step]
  cases start c with
  | none => rfl
  | some s => simp [Function.comp_def]

theorem doubled_cons (c : Char) (cs : List Char) :
    Text.doubleBackticks (c :: cs) =
      (if c = Text.backtick then [Text.backtick, Text.backtick] else [c]) ++
        Text.doubleBackticks cs := by
  simp [Text.doubleBackticks]

theorem lex_silent {r r' : Reading} {c : Char} (h : step r c = some ([], r')) (cs : List Char) :
    lex r (c :: cs) = lex r' cs := by
  rw [lex_cons, h, Option.bind_some]
  cases lex r' cs <;> rfl

theorem lex_plain {c : Char} (hc : c ≠ Text.backtick) (read cs : List Char) :
    lex (.name read) (c :: cs) = lex (.name (read ++ [c])) cs :=
  lex_silent (by rw [step, if_neg hc]) cs

theorem step_backtick (read : List Char) :
    step (.name read) Text.backtick = some ([], .backtick read) := by
  rw [step, if_pos rfl]

theorem lex_two_backticks (read cs : List Char) :
    lex (.name read) (Text.backtick :: Text.backtick :: cs) =
      lex (.name (read ++ [Text.backtick])) cs := by
  have hs : step (.backtick read) Text.backtick = some ([], .name (read ++ [Text.backtick])) := by
    rw [step, if_pos rfl]
  rw [lex_silent (step_backtick read), lex_silent hs]

theorem lex_doubled (read cs rest : List Char) :
    lex (.name read) (Text.doubleBackticks cs ++ rest) = lex (.name (read ++ cs)) rest := by
  induction cs generalizing read with
  | nil =>
    rw [List.append_nil]
    rfl
  | cons c cs ih =>
    rw [doubled_cons, List.append_assoc, List.append_cons read c cs, ← ih]
    -- a backtick takes two steps, through the state in which the name could end
    by_cases hc : c = Text.backtick
    · rw [if_pos hc, hc]
      exact lex_two_backticks read _
    · rw [if_neg hc]
      exact lex_plain hc read _

/-- The text is read as tokens wherever it stands, as long as no backtick follows it. -/
def Reads (text : String) (tokens : List Token) : Prop :=
  ∀ rest : List Char, rest.head? ≠ some Text.backtick →
    lex .gap (text.toList ++ rest) = (lex .gap rest).map (tokens ++ ·)

theorem reads_name (n : String) : Reads (Text.quoteIdentifier n) [.name n] := by
  intro rest hr
  have hq : (Text.quoteIdentifier n).toList ++ rest =
      Text.backtick :: (Text.doubleBackticks n.toList ++ Text.backtick :: rest) := by
    simp [Text.quoteIdentifier]
  have ho : lex .gap (Text.backtick :: (Text.doubleBackticks n.toList ++ Text.backtick :: rest)) =
      lex (.backtick n.toList) rest := by
    have hs : step .gap Text.backtick = some ([], .name []) := by decide
    rw [lex_silent hs, lex_doubled, List.nil_append]
    exact lex_silent (step_backtick _) rest
  rw [hq, ho]
  cases rest with
  | nil => simp [lex, run, finish]
  | cons c cs =>
    have hc : c ≠ Text.backtick := by simpa using hr
    rw [lex_cons, step, if_neg hc, lex_start_after]
    simp

theorem Reads.after {front back : String} {ts us : List Token}
    (hf : run .gap front.toList = some (ts, .gap)) (hb : Reads back us) :
    Reads (front ++ back) (ts ++ us) := by
  intro rest hr
  rw [String.toList_append, List.append_assoc, lex_append, hf, Option.bind_some, hb rest hr]
  simp [Function.comp_def]

theorem Reads.closed {text : String} {ts : List Token}
    (h : run .gap text.toList = some (ts, .gap)) : Reads text ts := by
  intro rest _
  rw [lex_append, h, Option.bind_some]

theorem Reads.append {front back : String} {ts us : List Token} (hf : Reads front ts)
    (hb : Reads back us) {c : Char} (hc : back.toList.head? = some c) (hn : c ≠ Text.backtick) :
    Reads (front ++ back) (ts ++ us) := by
  intro rest hr
  have hs : (back.toList ++ rest).head? ≠ some Text.backtick := by
    rw [List.head?_append, hc]
    simpa using hn
  rw [String.toList_append, List.append_assoc, hf _ hs, hb rest hr]
  simp [Function.comp_def]

theorem starts_front {front : String} (back : String) {c : Char}
    (h : front.toList.head? = some c) : (front ++ back).toList.head? = some c := by
  rw [String.toList_append, List.head?_append, h]
  rfl

theorem run_from : run .gap " FROM ".toList = some ([.word "FROM"], .gap) := rfl

theorem Reads.intercalate {α : Type} {text : α → String} {tokens : α → List Token}
    {separator : String} {between : List Token} {c : Char}
    (ht : ∀ x, Reads (text x) (tokens x))
    (hs : run .gap separator.toList = some (between, .gap))
    (hc : separator.toList.head? = some c) (hn : c ≠ Text.backtick) (xs : List α) :
    Reads (separator.intercalate (xs.map text)) (between.intercalate (xs.map tokens)) := by
  induction xs with
  | nil => exact Reads.closed rfl
  | cons x xs ih =>
    cases xs with
    | nil => simpa using ht x
    | cons y ys =>
      simp only [List.map_cons] at ih ⊢
      rw [String.intercalate_cons_cons, List.intercalate_cons_cons, String.append_assoc,
        List.append_assoc]
      refine (ht x).append (ih.after hs) (c := c) ?_ hn
      rw [String.toList_append, List.head?_append, hc]
      rfl

theorem Reads.all {text : String} {ts : List Token} (h : Reads text ts) :
    tokens? text.toList = some ts := by
  have hn := h [] (by simp)
  simpa [tokens?, lex, run, finish] using hn

end SchemaTypes.Sql
