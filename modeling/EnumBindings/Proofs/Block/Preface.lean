import EnumBindings.Proofs.Block.FirstHeader
import EnumBindings.Proofs.Block.Passage

/-!
# Text in front of a header

What stands in front of a source makes no difference to the scan of an enum as long as no header of
that enum begins in it and no identifier goes on from it into the source. The search for the header
passes over it, the scan goes the same way, and only the lines of faults are further down.

## Main definitions

* `Fault.lower`, `Cursor.lower`, `Scan.lower` — the same with all lines further down
* `Preface` — a text that can stand in front of a source

## Main results

* `standingAlone?_append_of_past` — the search passes over a text in which nothing stands alone
* `Cursor.scan_lower` — a scan that begins further down
* `opening_of_preface` — the block begins in the same place
* `scan_of_preface` — the scan of a source behind a preface
-/

namespace EnumBindings.Block

variable {enum front needle source : Text} {lines : Nat}

/-! ### The same further down -/

/-- The same fault with its line, if it has one, further down. -/
def Fault.lower (lines : Nat) : Fault → Fault
  | noHeader => noHeader
  | noOpenBrace line => noOpenBrace (line + lines)
  | noCloseBrace line => noCloseBrace (line + lines)
  | openComment line => openComment (line + lines)
  | noIdentifier line => noIdentifier (line + lines)

/-- The line of a fault, if it has one, grows by the lines in front. -/
theorem Fault.line?_lower (fault : Fault) :
    (fault.lower lines).line? = fault.line?.map (· + lines) := by
  cases fault <;> rfl

/-- The same cursor further down. -/
def Cursor.lower (lines : Nat) (cursor : Cursor) : Cursor :=
  { cursor with line := cursor.line + lines }

/-- The same events, and the same end but for the line of a fault. -/
def Scan.lower (lines : Nat) (done : Scan) : Scan :=
  ⟨done.events, done.result.mapError (Fault.lower lines)⟩

namespace Cursor

variable {cursor next : Cursor} {met : Option Entry}

/-- A cursor comes as far further down as what it reads has lines. -/
private theorem lower_mk (line read : Nat) (rest : Text) (pending : List Text) :
    lower lines ⟨line + read, rest, pending⟩ = ⟨line + lines + read, rest, pending⟩ := by
  rw [lower, Nat.add_right_comm]

/-- A step goes on alike further down. -/
theorem Advances.lower (advance : Advances cursor met next) (lines : Nat) :
    Advances (cursor.lower lines) met (next.lower lines) := by
  cases advance with
  | lineEnd found =>
    rw [lower_mk]
    exact .lineEnd found
  | lineComment found =>
    rw [lower_mk]
    exact .lineComment found
  | blockComment found closed =>
    rw [lower_mk]
    exact .blockComment found closed
  | option found taken optional =>
    rw [lower_mk]
    exact .option found taken optional
  | entry found taken named entry =>
    rw [lower_mk]
    exact .entry found taken named entry

/-- A step fails alike further down. -/
theorem Fails.lower {fault : Fault} (fails : Fails cursor fault) (lines : Nat) :
    Fails (cursor.lower lines) (fault.lower lines) := by
  cases fails with
  | noCloseBrace missing => exact .noCloseBrace missing
  | openComment found unclosed => exact .openComment found unclosed
  | noIdentifier found unnamed => exact .noIdentifier found unnamed
  | openTail found named unclosed => exact .openTail found named unclosed

/-- A step closes alike further down. -/
theorem closed_lower (closed : cursor.step = .closed) (lines : Nat) :
    (cursor.lower lines).step = .closed := by
  rw [step_eq_closed_iff] at closed ⊢
  exact closed

/-- A scan that begins further down goes the same way. -/
theorem scan_lower (cursor : Cursor) (lines : Nat) :
    (cursor.lower lines).scan = cursor.scan.lower lines := by
  induction cursor using Cursor.scan.induct with
  | case1 cursor closed =>
    rw [scan_of_closed closed, scan_of_closed (closed_lower closed lines)]
    rfl
  | case2 cursor fault failed =>
    have failed' := step_eq_failed_iff.mpr ((step_eq_failed_iff.mp failed).lower lines)
    rw [scan_of_failed failed, scan_of_failed failed']
    rfl
  | case3 cursor next advanced ih =>
    have advanced' := step_eq_advanced_iff.mpr ((step_eq_advanced_iff.mp advanced).lower lines)
    rw [scan_of_advanced advanced, scan_of_advanced advanced', ih]
    rfl
  | case4 cursor entry next advanced ih =>
    have advanced' := step_eq_advanced_iff.mpr ((step_eq_advanced_iff.mp advanced).lower lines)
    rw [scan_of_advanced advanced, scan_of_advanced advanced', ih]
    rfl

end Cursor

/-! ### The search for the header -/

/-- Of the character in front of a text it only matters whether an identifier goes on from it. -/
theorem standingAlone?_congr {previous other : Option Char}
    (same : isBoundary previous = isBoundary other) (s : Text) :
    standingAlone? needle previous s = standingAlone? needle other s := by
  cases s with
  | nil => rfl
  | cons c s => simp only [standingAlone?, same]

/-- The search passes over a text if each place where the needle stands alone is behind it. -/
theorem standingAlone?_append_of_past {previous : Option Char} (past : ∀ before after,
      front ++ source = before ++ needle ++ after → StandsAlone previous before after →
      front.length ≤ before.length) :
    standingAlone? needle previous (front ++ source) =
      (standingAlone? needle (front.getLast?.or previous) source).map
        fun (through, rest) => (front ++ through, rest) := by
  induction front generalizing previous with
  | nil => simp
  | cons c front ih =>
    -- The needle does not stand alone at once, as that would not be behind the text.
    have missing : ∀ after, c :: (front ++ source) = needle ++ after →
        ¬ StandsAlone previous [] after := by
      intro after whole alone
      have behind := past [] after whole alone
      simp at behind
    have later := ih fun before after whole alone => by
      have behind := past (c :: before) after (by simp [whole]) (standsAlone_cons.mpr alone)
      simpa using behind
    have last : (c :: front).getLast?.or previous = front.getLast?.or (some c) := by
      cases front <;> simp [List.getLast?_cons]
    rw [List.cons_append, standingAlone?_past missing, later, Option.map_map, last]
    rfl

/-- A text that can stand in front of a source: no identifier goes on from it into the source, and
each header of the enum in both together begins in the source. -/
structure Preface (enum front source : Text) : Prop where
  apart : isBoundary front.getLast? = true
  unnamed : ∀ before after, front ++ source = before ++ headerText enum ++ after →
    StandsAlone none before after → front.length ≤ before.length

/-- The header is found behind the preface. -/
theorem header?_of_preface (preface : Preface enum front source) :
    header? enum (front ++ source) =
      (header? enum source).map fun (through, rest) => (front ++ through, rest) := by
  have same : isBoundary (front.getLast?.or none) = isBoundary none := by
    rw [Option.or_none, preface.apart]
    rfl
  rw [header?, standingAlone?_append_of_past preface.unnamed, standingAlone?_congr same, header?]

/-- The block begins in the same place behind a preface. -/
theorem opening_of_preface (preface : Preface enum front source) :
    opening enum (front ++ source) =
      ((opening enum source).mapError (Fault.lower (Text.newlines front))).map
        fun (line, body) => (line + Text.newlines front, body) := by
  have lowered (through : Text) : 1 + Text.newlines (front ++ through) =
      1 + Text.newlines through + Text.newlines front := by
    rw [Text.newlines_append]
    omega
  rw [opening, header?_of_preface preface, opening]
  cases header? enum source with
  | none => rfl
  | some found =>
    obtain ⟨through, rest⟩ := found
    simp only [Option.map_some, lowered]
    cases Text.cut ['{'] rest with
    | none => rfl
    | some parts =>
      obtain ⟨gap, body⟩ := parts
      exact congrArg (fun line => Except.ok (line, body)) (Nat.add_right_comm _ _ _)

/-- The scan of an enum behind a preface delivers the same events and ends the same way, but that
the line of a fault is further down by the lines of the preface. -/
theorem scan_of_preface (preface : Preface enum front source) :
    scan enum (front ++ source) = (scan enum source).lower (Text.newlines front) := by
  rw [scan, opening_of_preface preface, scan]
  cases opening enum source with
  | error fault => rfl
  | ok opened =>
    obtain ⟨line, body⟩ := opened
    exact Cursor.scan_lower ⟨line, body, []⟩ (Text.newlines front)

/-- Text in which the header of an enum nearly stands: a longer name, a longer word and a break. -/
def nearMisses : Text :=
  "enum XY\n_enum X /*enum\nX;*/enum X1\n".toList

/-- A block with an entry and, on its third line, a statement without a name. -/
def namelessBlock : Text :=
  "enum X\x7b\nA=1;\n=\x7d".toList

/-- The near misses are a preface, and the fault is found three lines further down. -/
theorem scan_behind_nearMisses :
    Preface "X".toList nearMisses namelessBlock ∧
      scan "X".toList (nearMisses ++ namelessBlock) =
        ⟨[.entry (Entry.ofIdentifier ['A'] [])], .error (.noIdentifier 6)⟩ := by
  have found : header? "X".toList (nearMisses ++ namelessBlock) =
      some (nearMisses ++ "enum X".toList, "\x7b\nA=1;\n=\x7d".toList) := by
    decide
  obtain ⟨before, through, header⟩ := firstHeader_of_header? found
  have placed : nearMisses = before := List.append_cancel_right through
  have preface : Preface "X".toList nearMisses namelessBlock := by
    refine ⟨by decide, fun before' after' whole alone => ?_⟩
    rw [placed]
    exact header.first before' after' whole alone
  -- Only the block itself is run; the lines in front of it are added to that of the fault.
  have done : scan "X".toList namelessBlock =
      ⟨[.entry (Entry.ofIdentifier ['A'] [])], .error (.noIdentifier 3)⟩ := by
    have opened : opening "X".toList namelessBlock = .ok (1, "\nA=1;\n=\x7d".toList) := rfl
    have first : Cursor.step ⟨1, "\nA=1;\n=\x7d".toList, []⟩ =
      .advanced none ⟨2, "A=1;\n=\x7d".toList, []⟩ := rfl
    have second : Cursor.step ⟨2, "A=1;\n=\x7d".toList, []⟩ =
      .advanced (some (Entry.ofIdentifier ['A'] [])) ⟨3, "=\x7d".toList, []⟩ := rfl
    have third : Cursor.step ⟨3, "=\x7d".toList, []⟩ = .failed (.noIdentifier 3) := rfl
    rw [scan, opened]
    dsimp only
    rw [Cursor.scan_of_advanced first, Cursor.scan_of_advanced second, Cursor.scan_of_failed third]
    rfl
  refine ⟨preface, ?_⟩
  rw [scan_of_preface preface, done]
  rfl

end EnumBindings.Block
