import GatewayRecipes.Markup.Tag

/-! A document as a sequence of events, in which end tags match their start tags. -/
namespace GatewayRecipes.Markup

inductive Event
  /-- A start tag, by what stands inside it. -/
  | start (inside : List Char)
  /-- A tag without content, by what stands inside it. -/
  | empty (inside : List Char)
  /-- An end tag, which closes the innermost open start tag. -/
  | stop
  /-- Text, a comment, character data, an instruction, a declaration or a document type. -/
  | other
  /-- What cannot be read. Nothing follows it. -/
  | fault (position : Nat) (cause : Malformation)
  deriving Repr, DecidableEq, Inhabited

/-- An event with the position of the reader before it, in bytes. -/
structure Step where
  position : Nat
  event : Event
  deriving Repr, DecidableEq, Inhabited

/-- Split at the first `>` where `closes` holds of the characters before it, nearest first. -/
def splitClosed (closes : List Char → Bool) : List Char → List Char → Option (List Char × List Char)
  | _, [] => none
  | before, c :: rest =>
    if c = '>' && closes before then some (before.reverse, rest)
    else splitClosed closes (c :: before) rest

/-- Split at the first `>` outside quotes. -/
def splitTag : Option Char → List Char → Option (List Char × List Char)
  | _, [] => none
  | none, c :: rest =>
    if c = '>' then some ([], rest)
    else (splitTag (if c = '"' ∨ c = '\'' then some c else none) rest).map fun (a, b) => (c :: a, b)
  | some quote, c :: rest =>
    (splitTag (if c = quote then none else some quote) rest).map fun (a, b) => (c :: a, b)

/-- Split at the first `>` that closes no `<` of the same text. -/
def splitDoctype : Nat → List Char → Option (List Char × List Char)
  | _, [] => none
  | depth, c :: rest =>
    if c = '>' then
      match depth with
      | 0 => some ([], rest)
      | d + 1 => (splitDoctype d rest).map fun (a, b) => (c :: a, b)
    else (splitDoctype (if c = '<' then depth + 1 else depth) rest).map fun (a, b) => (c :: a, b)

theorem splitClosed_length {closes : List Char → Bool} {before cs a b : List Char}
    (h : splitClosed closes before cs = some (a, b)) : b.length < cs.length := by
  induction cs generalizing before with
  | nil => simp [splitClosed] at h
  | cons c rest ih =>
    unfold splitClosed at h
    split at h
    · simp only [Option.some.injEq, Prod.mk.injEq] at h
      simp [h.2]
    · exact Nat.lt_succ_of_lt (ih h)

theorem splitTag_length {quote : Option Char} {cs a b : List Char}
    (h : splitTag quote cs = some (a, b)) : b.length < cs.length := by
  induction cs generalizing quote a b with
  | nil => cases quote <;> simp [splitTag] at h
  | cons c rest ih =>
    have step : ∀ {q : Option Char},
        (splitTag q rest).map (fun (x, y) => (c :: x, y)) = some (a, b) →
          b.length < (c :: rest).length := by
      intro q hq
      obtain ⟨⟨x, y⟩, hx, hy⟩ := Option.map_eq_some_iff.1 hq
      simp only [Prod.mk.injEq] at hy
      exact Nat.lt_succ_of_lt (hy.2 ▸ ih hx)
    cases quote with
    | none =>
      unfold splitTag at h
      split at h
      · simp only [Option.some.injEq, Prod.mk.injEq] at h
        simp [h.2]
      · exact step h
    | some q => exact step h

theorem splitDoctype_length {depth : Nat} {cs a b : List Char}
    (h : splitDoctype depth cs = some (a, b)) : b.length < cs.length := by
  induction cs generalizing depth a b with
  | nil => simp [splitDoctype] at h
  | cons c rest ih =>
    have step : ∀ {d : Nat},
        (splitDoctype d rest).map (fun (x, y) => (c :: x, y)) = some (a, b) →
          b.length < (c :: rest).length := by
      intro d hd
      obtain ⟨⟨x, y⟩, hx, hy⟩ := Option.map_eq_some_iff.1 hd
      simp only [Prod.mk.injEq] at hy
      exact Nat.lt_succ_of_lt (hy.2 ▸ ih hx)
    unfold splitDoctype at h
    split at h
    · split at h
      · simp only [Option.some.injEq, Prod.mk.injEq] at h
        simp [h.2]
      · exact step h
    · exact step h

/-- A reader: the open start tags by their qualified names, the innermost first, and the rest of
the input behind `offset` bytes. Where the last text ended at a `<`, that is passed already. -/
structure Reader where
  opened : List (List Char)
  inMarkup : Bool
  offset : Nat
  rest : List Char
  deriving Repr, DecidableEq, Inhabited

namespace Reader

def position (r : Reader) : Nat := if r.inMarkup then r.offset - 1 else r.offset

/-- Go on behind `inside` and its `>`. -/
def behind (r : Reader) (inside rest : List Char) : Reader :=
  ⟨r.opened, false, r.offset + Text.byteLength inside + 1, rest⟩

/-- The end of a comment: `--`, behind at least the three characters that open it. -/
def closesComment : List Char → Bool
  | '-' :: '-' :: _ :: _ :: _ :: _ => true
  | _ => false

def closesData : List Char → Bool
  | ']' :: ']' :: _ => true
  | _ => false

def closesInstruction : List Char → Bool
  | '?' :: _ => true
  | _ => false

/-- Whether a text begins with a word in upper case, in any case of its ASCII letters. -/
def beginsWithWord (word : List Char) (text : List Char) : Bool :=
  word.isPrefixOf ((text.take word.length).map Char.toUpper)

/-- An event or fault of what follows a `<`, with the reader behind it. -/
inductive Outcome
  | event (e : Event) (next : Reader)
  | fault (position : Nat) (cause : Malformation)
  deriving Repr

/-- A fault at the `<`. -/
def rejected (r : Reader) (cause : Malformation) : Outcome := .fault (r.offset - 1) cause

/-- Markup that begins with `<!`. -/
def declaration (r : Reader) : Outcome :=
  match r.rest with
  | _ :: '-' :: _ =>
    match splitClosed closesComment [] r.rest with
    | some (inside, rest) =>
      if "!--".toList.isPrefixOf inside then .event .other (r.behind inside rest)
      else r.rejected (.unclosed .comment)
    | none => r.rejected (.unclosed .comment)
  | _ :: '[' :: _ =>
    match splitClosed closesData [] r.rest with
    | some (inside, rest) =>
      if "![CDATA[".toList.isPrefixOf inside then .event .other (r.behind inside rest)
      else r.rejected (.unclosed .cdata)
    | none => r.rejected (.unclosed .cdata)
  | _ :: c :: _ =>
    if c = 'D' ∨ c = 'd' then
      match splitDoctype 0 r.rest with
      | some (inside, rest) =>
        if beginsWithWord "!DOCTYPE".toList inside then
          if (inside.drop 8).all isSpace then
            .fault (r.offset + Text.byteLength inside) .namelessDoctype
          else .event .other (r.behind inside rest)
        else r.rejected (.unclosed .doctype)
      | none => r.rejected (.unclosed .doctype)
    else r.rejected .unknownMarkup
  | _ => r.rejected .unknownMarkup

/-- The name in an end tag: white space behind it does not count, unless there is nothing else. -/
def endName (inside : List Char) : List Char :=
  match inside.reverse.dropWhile isSpace with
  | [] => inside
  | name => name.reverse

/-- Close the innermost open tag by what stands behind `</`. -/
def close (r : Reader) (inside : List Char) (next : Reader) : Outcome :=
  let found := endName inside
  match r.opened with
  | [] => r.rejected (.unmatchedEnd (String.ofList found))
  | expected :: opened =>
    if found = expected then .event .stop { next with opened := opened }
    else r.rejected (.mismatchedEnd (String.ofList expected) (String.ofList found))

/-- What follows a `<`. -/
def markup (r : Reader) : Outcome :=
  match r.rest with
  | '!' :: _ => r.declaration
  | '?' :: _ =>
    match splitClosed closesInstruction [] r.rest with
    | some (inside, rest) =>
      if inside.length > 1 then .event .other (r.behind inside rest)
      else r.rejected (.unclosed .instruction)
    | none => r.rejected (.unclosed .instruction)
  | '/' :: _ =>
    match splitTag none r.rest with
    | some (inside, rest) => r.close (inside.drop 1) (r.behind inside rest)
    | none => r.rejected (.unclosed .tag)
  | _ =>
    match splitTag none r.rest with
    | some (inside, rest) =>
      let next := r.behind inside rest
      if inside.getLast? = some '/' then .event (.empty inside.dropLast) next
      else .event (.start inside) { next with opened := qualifiedName inside :: r.opened }
    | none => r.rejected (.unclosed .tag)

/-- The next event or fault, or nothing at the end of input. White space before text does not
count, and text ends behind the `<` that follows it. -/
def next (r : Reader) : Option Outcome :=
  if r.inMarkup then some r.markup
  else
    let blank := r.rest.takeWhile isSpace
    let start := r.offset + Text.byteLength blank
    match r.rest.dropWhile isSpace with
    | [] => none
    | '<' :: rest => some (markup ⟨r.opened, true, start + 1, rest⟩)
    | c :: more =>
      let text := c :: more.takeWhile (· != '<')
      match more.dropWhile (· != '<') with
      | [] => none
      | _ :: rest => some (.event .other ⟨r.opened, true, start + Text.byteLength text + 1, rest⟩)

@[simp] theorem rest_behind (r : Reader) (inside rest : List Char) :
    (r.behind inside rest).rest = rest := rfl

theorem rest_declaration {r n : Reader} {e : Event} (h : r.declaration = .event e n) :
    n.rest.length < r.rest.length := by
  unfold declaration rejected at h
  split at h
  · split at h
    · next hs =>
      split at h <;> simp only [Outcome.event.injEq, reduceCtorEq] at h
      exact h.2 ▸ splitClosed_length hs
    · simp at h
  · split at h
    · next hs =>
      split at h <;> simp only [Outcome.event.injEq, reduceCtorEq] at h
      exact h.2 ▸ splitClosed_length hs
    · simp at h
  · split at h
    · split at h
      · next hs =>
        split at h
        · split at h <;> simp only [Outcome.event.injEq, reduceCtorEq] at h
          exact h.2 ▸ splitDoctype_length hs
        · simp at h
      · simp at h
    · simp at h
  · simp at h

theorem rest_close {r n m : Reader} {e : Event} {inside : List Char}
    (h : r.close inside m = .event e n) : n.rest = m.rest := by
  unfold close rejected at h
  dsimp only at h
  split at h
  · simp at h
  · split at h <;> simp only [Outcome.event.injEq, reduceCtorEq] at h
    exact h.2 ▸ rfl

theorem rest_markup {r n : Reader} {e : Event} (h : r.markup = .event e n) :
    n.rest.length < r.rest.length := by
  unfold markup at h
  split at h
  · exact rest_declaration h
  · split at h
    · next hs =>
      split at h <;> simp only [rejected, Outcome.event.injEq, reduceCtorEq] at h
      exact h.2 ▸ splitClosed_length hs
    · simp [rejected] at h
  · split at h
    · next hs => exact rest_close h ▸ splitTag_length hs
    · simp [rejected] at h
  · split at h
    · next hs =>
      dsimp only at h
      split at h <;> simp only [Outcome.event.injEq] at h
      · exact h.2 ▸ splitTag_length hs
      · exact h.2 ▸ splitTag_length hs
    · simp [rejected] at h

theorem rest_next {r n : Reader} {e : Event} (h : r.next = some (.event e n)) :
    n.rest.length < r.rest.length := by
  unfold next at h
  split at h
  · exact rest_markup (by simpa using h)
  · have hs := (List.dropWhile_suffix (l := r.rest) isSpace).length_le
    dsimp only at h
    split at h
    · simp at h
    · next rest hr =>
      rw [hr] at hs
      have := rest_markup (by simpa using h)
      simp only [List.length_cons] at hs this ⊢
      omega
    · next c more _ hr =>
      rw [hr] at hs
      split at h
      · simp at h
      · next hm =>
        have ht := (List.dropWhile_suffix (l := more) (· != '<')).length_le
        rw [hm] at ht
        simp only [Option.some.injEq, Outcome.event.injEq] at h
        obtain ⟨-, rfl⟩ := h
        simp only [List.length_cons] at hs ht ⊢
        omega

def steps (r : Reader) : List Step :=
  match _h : r.next with
  | none => []
  | some (.fault position cause) => [⟨r.position, .fault position cause⟩]
  | some (.event e n) => ⟨r.position, e⟩ :: n.steps
termination_by r.rest.length
decreasing_by exact rest_next _h

/-- A reader at the beginning of a document. A byte order mark is no part of it. -/
def ofDocument : List Char → Reader
  | '\ufeff' :: rest => ⟨[], false, 0, rest⟩
  | rest => ⟨[], false, 0, rest⟩

end Reader

def eventsOf (document : List Char) : List Step := (Reader.ofDocument document).steps

end GatewayRecipes.Markup
