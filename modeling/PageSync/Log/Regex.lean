import PageSync.Log.Directive

/-!
An engine for patterns. It reads characters, `.` for any character but a line feed, sets such as
`[a-z]` and `[^0-9]`, groups, `|`, and the repetitions `*`, `+` and `?`, each of which takes as much
as it can, or as little when a `?` follows. A backslash takes the meaning from a punctuation mark.
Anchors, counted repetitions, and classes and characters named by a letter are no patterns to it.

A text matches when the match that a search from its left finds ends where the text ends. The
search follows all alternatives at once, in the order in which they are preferred; one that has
matched drops those after it.
-/

namespace PageSync.Log

def isEscapable (c : Char) : Bool :=
  c.toNat < 0x80 && !c.isAlphanum && c != '<' && c != '>'

/-- The characters in some intervals, or all others. -/
structure CharSet where
  negated : Bool
  intervals : List (Char × Char)
deriving Repr, DecidableEq

namespace CharSet

def has (set : CharSet) (c : Char) : Bool :=
  (set.intervals.any fun (first, last) => first ≤ c && c ≤ last) != set.negated

def single (c : Char) : CharSet := ⟨false, [(c, c)]⟩

def anyChar : CharSet := ⟨true, []⟩

def withinLine : CharSet := ⟨true, [('\n', '\n')]⟩

/-- Reads the items of a set up to its closing bracket. A minus sign in front of that stands for
itself. -/
def readItems : List (Char × Char) → List Char → Option (List (Char × Char) × List Char)
  | _, [] => none
  | items, ']' :: rest => some (items.reverse, rest)
  | _, '[' :: _ => none
  | items, '\\' :: c :: rest => if isEscapable c then readItems ((c, c) :: items) rest else none
  | items, a :: '-' :: ']' :: rest => some ((('-', '-') :: (a, a) :: items).reverse, rest)
  | items, a :: '-' :: b :: rest =>
    if a ≤ b && b != '\\' && b != '[' then readItems ((a, b) :: items) rest else none
  | items, a :: rest => readItems ((a, a) :: items) rest

/-- Reads a set whose mark of negation has been read. A closing bracket in front stands for
itself. -/
def readBody (negated : Bool) (text : List Char) : Option (CharSet × List Char) :=
  (match text with
    | ']' :: rest => readItems [(']', ']')] rest
    | text => readItems [] text).map fun (intervals, rest) => (⟨negated, intervals⟩, rest)

def read : List Char → Option (CharSet × List Char)
  | '^' :: rest => readBody true rest
  | text => readBody false text

theorem length_lt_of_readItems {items intervals : List (Char × Char)} {text rest : List Char}
    (h : readItems items text = some (intervals, rest)) : rest.length < text.length := by
  fun_induction readItems items text with
  | case1 => simp at h
  | case2 => simp only [Option.some.injEq, Prod.mk.injEq] at h; simp [← h.2]
  | case3 => simp at h
  | case4 =>
    rename_i ih
    have := ih h
    simp only [List.length_cons]; omega
  | case5 => simp at h
  | case6 => simp only [Option.some.injEq, Prod.mk.injEq] at h; simp [← h.2]; omega
  | case7 =>
    rename_i ih
    have := ih h
    simp only [List.length_cons]; omega
  | case8 => simp at h
  | case9 =>
    rename_i ih
    have := ih h
    simp only [List.length_cons]; omega

theorem length_lt_of_readBody {negated : Bool} {text rest : List Char} {set : CharSet}
    (h : readBody negated text = some (set, rest)) : rest.length < text.length := by
  simp only [readBody, Option.map_eq_some_iff, Prod.mk.injEq] at h
  obtain ⟨⟨intervals, rest'⟩, hr, -, rfl⟩ := h
  split at hr
  · have := length_lt_of_readItems hr
    simp only [List.length_cons]; omega
  · exact length_lt_of_readItems hr

theorem length_lt_of_read {text rest : List Char} {set : CharSet}
    (h : read text = some (set, rest)) : rest.length < text.length := by
  unfold read at h
  split at h
  · have := length_lt_of_readBody h
    simp only [List.length_cons]; omega
  · exact length_lt_of_readBody h

end CharSet

inductive Regex where
  | empty
  | one (set : CharSet)
  | seq (first second : Regex)
  /-- either, the first preferred -/
  | alt (first second : Regex)
  /-- any number of times, the most preferred when `greedy`, else the fewest -/
  | star (greedy : Bool) (body : Regex)
deriving Repr, DecidableEq

namespace Regex

def plus (greedy : Bool) (body : Regex) : Regex := .seq body (.star greedy body)

def optional (greedy : Bool) (body : Regex) : Regex :=
  if greedy then .alt body .empty else .alt .empty body

/-- How a match can begin, in the order of preference: with a character from a set, and then the
rest; or by ending at once. -/
def heads : Regex → List (Option (CharSet × Regex))
  | .empty => [none]
  | .one set => [some (set, .empty)]
  | .seq first second =>
    first.heads.flatMap fun
      | none => second.heads
      | some (set, rest) => [some (set, .seq rest second)]
  | .alt first second => first.heads ++ second.heads
  | .star greedy body =>
    let again := body.heads.filterMap fun head =>
      head.map fun (set, rest) => some (set, Regex.seq rest (.star greedy body))
    if greedy then again ++ [none] else none :: again

def step (alternatives : List Regex) (c : Char) : List Regex :=
  (((alternatives.flatMap heads).takeWhile Option.isSome).filterMap fun head =>
    head.bind fun (set, rest) => if set.has c then some rest else none).eraseDups

def run (alternatives : List Regex) (text : List Char) : List Regex := text.foldl step alternatives

def ends (alternatives : List Regex) : Bool := (alternatives.flatMap heads).any Option.isNone

/-- A match may begin anywhere, the sooner the better. -/
def anywhere (regex : Regex) : Regex := .seq (.star false (.one .anyChar)) regex

def matchesText (regex : Regex) (text : List Char) : Bool := ends (run [regex.anywhere] text)

/-- A group that is being read: the alternatives before the last `|`, and the items since then, the
last one first. -/
structure Group where
  branches : List Regex := []
  items : List Regex := []

def Group.branch (group : Group) : Regex :=
  match group.items with
  | [] => .empty
  | last :: before => before.foldl (fun tail item => .seq item tail) last

def Group.close (group : Group) : Regex :=
  group.branches.foldl (fun tail branch => .alt branch tail) group.branch

def Group.add (group : Group) (item : Regex) : Group := { group with items := item :: group.items }

def Group.split (group : Group) : Group := ⟨group.branch :: group.branches, []⟩

def Group.change? (group : Group) (f : Regex → Regex) : Option Group :=
  match group.items with
  | [] => none
  | last :: before => some { group with items := f last :: before }

/-- Characters with a meaning that no pattern uses. -/
def isReserved (c : Char) : Bool := c == '^' || c == '$' || c == '\x7b'

/-- Reads a pattern; `outer` are the groups around the present one. -/
def readFrom (outer : List Group) (group : Group) (text : List Char) : Option Regex :=
  match text with
  | [] => if outer.isEmpty then some group.close else none
  | '(' :: '?' :: ':' :: rest => readFrom (group :: outer) {} rest
  | '(' :: '?' :: _ => none
  | '(' :: rest => readFrom (group :: outer) {} rest
  | ')' :: rest =>
    match outer with
    | [] => none
    | around :: outer => readFrom outer (around.add group.close) rest
  | '|' :: rest => readFrom outer group.split rest
  | '*' :: '?' :: rest => do readFrom outer (← group.change? (.star false)) rest
  | '*' :: rest => do readFrom outer (← group.change? (.star true)) rest
  | '+' :: '?' :: rest => do readFrom outer (← group.change? (plus false)) rest
  | '+' :: rest => do readFrom outer (← group.change? (plus true)) rest
  | '?' :: '?' :: rest => do readFrom outer (← group.change? (optional false)) rest
  | '?' :: rest => do readFrom outer (← group.change? (optional true)) rest
  | '.' :: rest => readFrom outer (group.add (.one .withinLine)) rest
  | '\\' :: [] => none
  | '\\' :: c :: rest =>
    if isEscapable c then readFrom outer (group.add (.one (.single c))) rest else none
  | '[' :: rest =>
    match _h : CharSet.read rest with
    | none => none
    | some (set, rest') => readFrom outer (group.add (.one set)) rest'
  | c :: rest =>
    if isReserved c then none else readFrom outer (group.add (.one (.single c))) rest
termination_by text.length
decreasing_by
  all_goals simp only [List.length_cons]
  any_goals omega
  exact Nat.lt_succ_of_lt (CharSet.length_lt_of_read ‹_›)

def read? (text : List Char) : Option Regex := readFrom [] {} text

def compiles (pattern : String) : Bool := (read? pattern.toList).isSome

instance : PatternEngine where
  compiles := compiles
  matchesText pattern text := (read? pattern.toList).any (·.matchesText text.toList)

end Regex

end PageSync.Log
