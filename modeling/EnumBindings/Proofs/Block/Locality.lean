import EnumBindings.Proofs.Block.FirstHeader
import EnumBindings.Proofs.Block.Nearest
import EnumBindings.Proofs.Block.Passage
import EnumBindings.Proofs.Text.Occurrence

/-!
# What a scan does not look at

A scan looks no further than to the end of the line, or to a closing brace. So a text that it has
read up to there can be followed by another text without a change to what was read.

## Main definitions

* `Sealed` — a text ends with a newline or a closing brace

## Main results

* `Token.next?_append_right` — the nearest token of a sealed text does not depend on what follows
* `Tail.Reads.exchange`, `Cursor.Passes.exchange` — neither do tails of statements and passages
* `opening_exchange` — the opening of a block does not depend on the block
-/

namespace EnumBindings.Block

variable {s t front rest : Text} {c : Char}

/-- A text ends with a newline or a closing brace, where each search for a token stops. -/
def Sealed (s : Text) : Prop :=
  s.getLast? = some '\n' ∨ s.getLast? = some '}'

theorem Sealed.ne_nil (ended : Sealed s) : s ≠ [] := by
  rintro rfl
  rcases ended with h | h <;> simp at h

private theorem getLast?_append (nonempty : s ≠ []) : (front ++ s).getLast? = s.getLast? := by
  rw [List.getLast?_append, List.getLast?_eq_some_getLast nonempty, Option.some_or]

/-- The rest of a sealed text is sealed. -/
theorem Sealed.of_append (ended : Sealed (front ++ s)) (nonempty : s ≠ []) : Sealed s := by
  rwa [Sealed, getLast?_append nonempty] at ended

/-! ### The nearest token -/

namespace Token

variable {wanted : Token → Bool}

private theorem at?_append {d : Char} : at? (c :: d :: s ++ t) =
    (at? (c :: d :: s)).map fun (token, after) => (token, after ++ t) := by
  cases h : at? (c :: d :: s) with
  | some found =>
    obtain ⟨token, after⟩ := found
    rw [at?_eq_some_iff.mp h, Option.map_some, List.append_assoc]
    exact at?_eq_some_iff.mpr rfl
  | none =>
    rw [Option.map_none, Option.eq_none_iff_forall_not_mem]
    rintro ⟨token, after⟩ found
    -- A token that stood there would have been found in two characters already.
    have whole := at?_eq_some_iff.mp found
    refine absurd h ?_
    cases token <;> simp_all [lexeme, at?]

/-- The nearest token of a sealed text does not depend on what follows the text. -/
theorem next?_append_right (ended : Sealed s) (newline : wanted .lineEnd = true)
    (brace : wanted .closeBrace = true) :
    next? wanted (s ++ t) =
      (next? wanted s).map fun (before, token, after) => (before, token, after ++ t) := by
  induction s with
  | nil => exact absurd rfl ended.ne_nil
  | cons c s ih =>
    cases s with
    | nil =>
      -- The last character of a sealed text is a token by itself, whatever follows it.
      have lineEnd (u : Text) : next? wanted ('\n' :: u) = some ([], .lineEnd, u) :=
        next?_lexeme_append newline
      have closeBrace (u : Text) : next? wanted ('}' :: u) = some ([], .closeBrace, u) :=
        next?_lexeme_append brace
      rcases ended with last | last <;> rw [List.getLast?_singleton, Option.some_inj] at last
      · rw [last, List.singleton_append, lineEnd, lineEnd]
        rfl
      · rw [last, List.singleton_append, closeBrace, closeBrace]
        rfl
    | cons d s =>
      have ended' : Sealed ([c] ++ d :: s) := ended
      have later := ih (ended'.of_append (by simp))
      -- In front of the last character there are two to look at, which is enough for every token.
      have here : at? (c :: d :: s ++ t) = _ := at?_append
      rw [List.cons_append] at here ⊢
      rw [next?, next?, here]
      cases h : at? (c :: d :: s) with
      | none =>
        simp only [Option.map_none, Option.filter_none]
        rw [later, Option.map_map, Option.map_map]
        rfl
      | some found =>
        by_cases kind : wanted found.1 = true
        · simp [Option.filter, kind]
        · simp only [Option.map_some, Option.filter, kind]
          simp only [Bool.false_eq_true, if_false]
          rw [later, Option.map_map, Option.map_map]
          rfl

/-- The text that follows a sealed text can be exchanged behind its nearest token. -/
theorem next?_exchange {before after : Text} {token : Token} (ended : Sealed s)
    (newline : wanted .lineEnd = true) (brace : wanted .closeBrace = true)
    (found : next? wanted (s ++ t) = some (before, token, after)) :
    ∃ kept, after = kept ++ t ∧ s = before ++ token.lexeme ++ kept ∧
      ∀ u, next? wanted (s ++ u) = some (before, token, kept ++ u) := by
  rw [next?_append_right ended newline brace] at found
  obtain ⟨⟨before', token', kept⟩, here, same⟩ := Option.map_eq_some_iff.mp found
  cases same
  refine ⟨kept, rfl, (next?_append here).1, fun u => ?_⟩
  rw [next?_append_right ended newline brace, here]
  rfl

end Token

/-! ### Lines -/

/-- A text that ends with a newline has one behind the opener of a line comment. -/
private theorem newline_mem (ended : (front ++ ['/', '/'] ++ s).getLast? = some '\n') :
    '\n' ∈ s := by
  cases s with
  | nil => simp at ended
  | cons c s =>
    rw [getLast?_append (List.cons_ne_nil c s)] at ended
    exact List.mem_of_getLast? ended

/-- The text that follows a line can be exchanged. There is a newline unless the line goes on into
the text that follows. -/
private theorem throughLine_exchange {kept : Text} (more : kept = [] → '\n' ∈ s)
    (left : (Text.throughLine (s ++ t)).2 = kept ++ t) (u : Text) :
    Text.throughLine (s ++ u) = ((Text.throughLine (s ++ t)).1, kept ++ u) := by
  have newline : '\n' ∈ s := by
    cases kept with
    | nil => exact more rfl
    | cons d kept =>
      by_cases h : '\n' ∈ s
      · exact h
      · -- Without a newline the line would go on into `t`, and could not leave all of it.
        rw [Text.throughLine_append_of_notMem h] at left
        have shorter := Text.length_throughLine_snd t
        have same := congrArg List.length left
        simp only [List.length_append, List.length_cons] at same
        omega
  obtain ⟨line, rest, rfl, inline⟩ := List.eq_append_cons_of_mem newline
  have shape (v : Text) :
      Text.throughLine (line ++ '\n' :: rest ++ v) = (line ++ ['\n'], rest ++ v) := by
    rw [List.append_assoc, List.cons_append, Text.throughLine_append_newline inline]
  rw [shape] at left
  rw [shape, shape, List.append_cancel_right left]

/-! ### Tails of statements -/

/-- The text that follows a cut can be exchanged. -/
private theorem cut_exchange {needle before after kept : Text}
    (found : Text.cut needle (s ++ t) = some (before, after)) (left : after = kept ++ t) :
    s = before ++ needle ++ kept ∧
      ∀ u, Text.cut needle (s ++ u) = some (before, kept ++ u) := by
  obtain ⟨whole, clear⟩ := Text.cut_eq_some_iff.mp found
  have shape : s = before ++ needle ++ kept := by
    rw [left, ← List.append_assoc] at whole
    exact List.append_cancel_right whole
  exact ⟨shape, fun u => Text.cut_eq_some_iff.mpr ⟨by rw [shape, List.append_assoc], clear.exchange _⟩⟩

/-- The text that follows the tail of a statement can be exchanged. -/
theorem Tail.Reads.exchange {after kept : Text} {tail : Tail} (read : Tail.Reads after tail)
    (whole : after = s ++ t) (left : tail.rest = kept ++ t) (ended : Sealed s)
    (more : kept = [] → s.getLast? = some '\n') (u : Text) :
    Tail.Reads (s ++ u) ⟨tail.docs, tail.through, kept ++ u⟩ := by
  subst whole
  cases read with
  | @brace value rest found =>
    -- The brace itself is left, with what stands behind it.
    obtain ⟨behind, rfl, -, found'⟩ := Token.next?_exchange ended (by decide) (by decide) found
    obtain rfl : '}' :: behind = kept := List.append_cancel_right left
    exact .brace (found' u)
  | @remark value rest found =>
    obtain ⟨behind, rfl, rfl, found'⟩ := Token.next?_exchange ended (by decide) (by decide) found
    have read := Tail.Reads.remark (found' u)
    rwa [throughLine_exchange (fun complete => newline_mem (more complete)) left u] at read
  | @noteRemark value opened body closed gap rest found cut further =>
    obtain ⟨inside, rfl, rfl, found'⟩ := Token.next?_exchange ended (by decide) (by decide) found
    have left : (Text.throughLine rest).2 = kept ++ t := left
    -- The remark behind the comment was read in the kept text, so the comment ends there.
    have whole : closed = gap ++ ['/', '/'] ++ (Text.throughLine rest).1 ++ kept ++ t := by
      have remark := (Token.next?_append further).1
      rw [← Text.throughLine_append rest, left] at remark
      simpa [Token.lexeme] using remark
    obtain ⟨rfl, cut'⟩ := cut_exchange cut whole
    have behind : Sealed (gap ++ ['/', '/'] ++ (Text.throughLine rest).1 ++ kept) := by
      have ended' : Sealed (value ++ ['/', '*'] ++ body ++ ['*', '/'] ++
          (gap ++ ['/', '/'] ++ (Text.throughLine rest).1 ++ kept)) := by
        simpa [Token.lexeme] using ended
      exact ended'.of_append (by simp)
    rw [whole] at further
    obtain ⟨remark, rfl, shape, further'⟩ :=
      Token.next?_exchange behind (by decide) (by decide) further
    have newline (complete : kept = []) : '\n' ∈ remark := by
      have last := more complete
      rw [shape] at last
      have last' : (value ++ ['/', '*'] ++ body ++ ['*', '/'] ++ gap ++ ['/', '/'] ++
          remark).getLast? = some '\n' := by
        simpa [Token.lexeme] using last
      exact newline_mem last'
    have read := Tail.Reads.noteRemark (found' u) (cut' u) (further' u)
    rwa [throughLine_exchange newline left u] at read
  | @note value opened body closed found cut other =>
    obtain ⟨inside, rfl, rfl, found'⟩ := Token.next?_exchange ended (by decide) (by decide) found
    have left : closed = kept ++ t := left
    obtain ⟨rfl, cut'⟩ := cut_exchange cut left
    have behind : Sealed kept := by
      have ended' : Sealed (value ++ ['/', '*'] ++ body ++ ['*', '/'] ++ kept) := by
        simpa [Token.lexeme] using ended
      refine ended'.of_append ?_
      rintro rfl
      have last := more rfl
      simp at last
    -- A line comment behind another text would have been found behind this one.
    refine .note (found' u) (cut' u) fun gap rest further => ?_
    rw [left] at other
    obtain ⟨_, _, _, further'⟩ := Token.next?_exchange behind (by decide) (by decide) further
    exact other _ _ (further' t)
  | plain other =>
    have newline (complete : kept = []) : '\n' ∈ s := List.mem_of_getLast? (more complete)
    have read : Tail.Reads (s ++ u) _ := .plain fun value token rest found => by
      obtain ⟨_, _, _, found'⟩ := Token.next?_exchange ended (by decide) (by decide) found
      exact other _ _ _ (found' t)
    rwa [throughLine_exchange newline left u] at read

/-! ### Steps and passages -/

namespace Cursor

variable {kept : Text} {cursor next last : Cursor} {met : Option Entry} {entries : List Entry}

/-- Behind the sign of a statement, what is kept of a sealed text is sealed as well. -/
private theorem sealed_behind_sign {before behind : Text} (ended : Sealed s)
    (more : kept = [] → s.getLast? = some '\n') (shape : s = before ++ ['='] ++ behind) :
    Sealed behind ∧ (kept = [] → behind.getLast? = some '\n') := by
  subst shape
  have nonempty : behind ≠ [] := by
    rintro rfl
    simp [Sealed] at ended
  rw [getLast?_append nonempty] at more
  exact ⟨ended.of_append nonempty, more⟩

/-- The text that follows what a step has read can be exchanged. -/
theorem Advances.exchange (advance : Advances cursor met next) (whole : cursor.rest = s ++ t)
    (left : next.rest = kept ++ t) (ended : Sealed s) (more : kept = [] → s.getLast? = some '\n')
    (u : Text) :
    Advances ⟨cursor.line, s ++ u, cursor.pending⟩ met ⟨next.line, kept ++ u, next.pending⟩ := by
  obtain ⟨line, rest, pending⟩ := cursor
  obtain rfl : rest = s ++ t := whole
  -- Where the step reads to the end of what stays, that ends in a newline, so that no token or
  -- comment goes on in what is exchanged.
  cases advance with
  | @lineEnd before rest found =>
    obtain ⟨behind, rfl, -, found'⟩ := Token.next?_exchange ended rfl rfl found
    obtain rfl : behind = kept := List.append_cancel_right left
    exact .lineEnd (found' u)
  | @lineComment before rest found =>
    obtain ⟨behind, rfl, rfl, found'⟩ := Token.next?_exchange ended rfl rfl found
    have read : Advances ⟨line, _, pending⟩ _ _ := .lineComment (found' u)
    rwa [throughLine_exchange (fun complete => newline_mem (more complete)) left u] at read
  | @blockComment before rest body closed found cut =>
    obtain ⟨behind, rfl, rfl, found'⟩ := Token.next?_exchange ended rfl rfl found
    obtain ⟨-, cut'⟩ := cut_exchange cut left
    exact .blockComment (found' u) (cut' u)
  | @option before after tail found taken optional =>
    obtain ⟨behind, rfl, shape, found'⟩ := Token.next?_exchange ended rfl rfl found
    obtain ⟨ended', more'⟩ := sealed_behind_sign ended more shape
    exact .option (found' u) (taken.exchange rfl left ended' more' u) optional
  | @entry before after tail found taken named entry =>
    obtain ⟨behind, rfl, shape, found'⟩ := Token.next?_exchange ended rfl rfl found
    obtain ⟨ended', more'⟩ := sealed_behind_sign ended more shape
    exact .entry (found' u) (taken.exchange rfl left ended' more' u) named entry

/-- The text that follows what a passage has read can be exchanged. -/
theorem Passes.exchange (passed : Passes cursor entries last) (whole : cursor.rest = s ++ t)
    (left : last.rest = kept ++ t) (ended : s ≠ [] → Sealed s)
    (more : kept = [] → s ≠ [] → s.getLast? = some '\n') (u : Text) :
    Passes ⟨cursor.line, s ++ u, cursor.pending⟩ entries ⟨last.line, kept ++ u, last.pending⟩ := by
  induction passed generalizing s with
  | refl cursor =>
    obtain rfl : s = kept := List.append_cancel_right (whole.symm.trans left)
    exact .refl _
  | @step cursor next last met later advanced passed ih =>
    -- The text of the passage is what its first step reads, what its other steps read, and what is
    -- left.
    obtain ⟨through, rest⟩ := passed.exists_through
    obtain ⟨read, start⟩ := (step_eq_advanced_iff.mp advanced).exists_through
    rw [left, ← List.append_assoc] at rest
    obtain rfl : s = read ++ (through ++ kept) := by
      rw [whole, rest, ← List.append_assoc] at start
      exact List.append_cancel_right start
    have shorter := step_shortens advanced
    rw [whole, rest] at shorter
    have nonempty : read ++ (through ++ kept) ≠ [] := by
      intro empty
      simp only [List.append_eq_nil_iff] at empty
      simp [empty] at shorter
    have first := (step_eq_advanced_iff.mp advanced).exchange whole rest (ended nonempty)
      (fun complete => more (List.append_eq_nil_iff.mp complete).2 nonempty) u
    -- The rest of the passage reads the end of a sealed text, which is sealed again unless it is
    -- empty.
    refine .step (step_eq_advanced_iff.mpr first) (ih rest left (ended nonempty).of_append ?_)
    intro complete onward
    have newline := more complete nonempty
    rwa [getLast?_append onward] at newline

end Cursor

/-! ### The opening of a block -/

/-- The opening of a block does not depend on the text of the block. -/
theorem opening_exchange {enum source body : Text} {line : Nat}
    (opened : opening enum source = .ok (line, body)) :
    ∃ front, source = front ++ body ∧ ∀ u, opening enum (front ++ u) = .ok (line, u) := by
  unfold opening at opened
  split at opened
  next => simp at opened
  next through rest found =>
    obtain ⟨before, rfl, header⟩ := firstHeader_of_header? found
    dsimp only at opened
    split at opened
    next => simp at opened
    next gap body' brace =>
      cases opened
      obtain ⟨rfl, clear⟩ := Text.cut_eq_some_iff.mp brace
      refine ⟨before ++ headerText enum ++ (gap ++ ['{']), ?_, fun u => ?_⟩
      · rw [header.whole, List.append_assoc]
        simp
      · have header' := header.exchange (by simp) u
        -- The header is looked for up to the brace, and the brace in the gap behind it.
        have cut : Text.cut ['{'] (gap ++ ['{'] ++ u) = some (gap, u) :=
          Text.cut_eq_some_iff.mpr ⟨rfl, clear.exchange u⟩
        rw [opening, List.append_assoc, header?_of_firstHeader header']
        simp only [cut]

end EnumBindings.Block
