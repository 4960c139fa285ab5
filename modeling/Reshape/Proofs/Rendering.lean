/-
Where diagnostics are printed.

A diagnostic is printed with the line and the column of its region, the line of the program, and carets under it.  The
lexer counts lines and columns as it goes; the line that is printed, the blanks in front of the carets and the carets
are taken out of the text by offset.  Both say the same.

* `getElem?_splitOn_line` — the line of a place, among the lines of the text;
* `Span.onLine_ofText` — the characters of a region on its first line;
* `Diagnostics.renderBytes_eq` — printing by bytes comes to an end, whatever the text and the regions;
* `rendered_positions` — what is printed about a program that does not compile.
-/
import Reshape.Function.Standard
import Reshape.Proofs.Resolution
import Reshape.Proofs.Sites
import Reshape.Proofs.Slicing

namespace Reshape

/-! ### Lines -/

theorem head?_splitOn (c : Char) (cs : List Char) : (cs.splitOn c).head? = some (cs.takeWhile (· != c)) := by
  induction cs with
  | nil => rfl
  | cons d rest ih =>
    rw [List.splitOn, List.splitOnP_cons_eq_if_modifyHead, ← List.splitOn]
    by_cases hd : d = c
    · simp [hd]
    · obtain ⟨first, more, hsplit⟩ := List.exists_cons_of_ne_nil (List.splitOn_ne_nil c rest)
      rw [hsplit] at ih ⊢
      obtain rfl : first = rest.takeWhile (· != c) := Option.some.inj ih
      simp [hd]

theorem rtakeWhile_cons (c d : Char) (cs : List Char) :
    (d :: cs).rtakeWhile (· != c) = if d ≠ c ∧ c ∉ cs then d :: cs else cs.rtakeWhile (· != c) := by
  split
  · rename_i h
    rw [List.rtakeWhile_eq_self_iff]
    intro x hx
    have hne : x ≠ c := by
      rintro rfl
      rcases List.mem_cons.1 hx with rfl | hx
      · exact h.1 rfl
      · exact h.2 hx
    simpa using hne
  · rename_i h
    rw [List.rtakeWhile, List.reverse_cons, List.takeWhile_append]
    split
    · rename_i hlength
      -- all behind the first character is kept, so it is that one where the line breaks
      have hself : cs.reverse.takeWhile (· != c) = cs.reverse := (List.takeWhile_prefix _).eq_of_length hlength
      have hnotMem : c ∉ cs := fun hmem => by
        have hkept := List.takeWhile_eq_self_iff.1 hself c (List.mem_reverse.2 hmem)
        simp at hkept
      have hd : d = c := by
        by_contra hd
        exact h ⟨hd, hnotMem⟩
      rw [List.rtakeWhile, hself, hd]
      simp
    · rfl

/-- The line on which some text ends and other text starts, found by the line breaks in front. -/
theorem getElem?_splitOn_line (c : Char) (front back : List Char) :
    ((front ++ back).splitOn c)[front.count c]? = some (front.rtakeWhile (· != c) ++ back.takeWhile (· != c)) := by
  induction front with
  | nil => simpa [List.head?_eq_getElem?] using head?_splitOn c back
  | cons d front ih =>
    rw [List.cons_append, List.splitOn, List.splitOnP_cons_eq_if_modifyHead, ← List.splitOn, rtakeWhile_cons]
    by_cases hd : d = c
    · simpa [hd] using ih
    · rw [if_neg (by simpa using hd), List.count_cons_of_ne hd, List.getElem?_modifyHead, ih]
      by_cases hmem : c ∈ front
      · simp [hmem, List.count_eq_zero]
      · have hself : front.rtakeWhile (· != c) = front := List.rtakeWhile_eq_self_iff.2 fun x hx => by
          have hne : x ≠ c := fun heq => hmem (heq ▸ hx)
          simpa using hne
        simp [hmem, hd, hself, List.count_eq_zero]

/-! ### Characters -/

/-- The characters of some text, each with the place at which it stands. -/
def Mark.places : Mark → List Char → List (Mark × Char)
  | _, [] => []
  | m, c :: rest => (m, c) :: (m.next c).places rest

/-- A character stands in the region, on the line on which the region starts. -/
structure Span.Holds (s : Span) (p : Mark × Char) : Prop where
  line : p.2 ≠ '\n' ∧ p.1.line = s.line
  start : s.start ≤ p.1.offset
  stop : p.1.offset < s.stop

instance (s : Span) (p : Mark × Char) : Decidable (s.Holds p) :=
  decidable_of_iff ((p.2 ≠ '\n' ∧ p.1.line = s.line) ∧ s.start ≤ p.1.offset ∧ p.1.offset < s.stop)
    ⟨fun ⟨line, start, stop⟩ => ⟨line, start, stop⟩, fun ⟨line, start, stop⟩ => ⟨line, start, stop⟩⟩

/-- The number of characters of a region on the line on which it starts. -/
def Span.onLine (source : List Char) (s : Span) : Nat :=
  (Mark.origin.places source).countP (s.Holds ·)

namespace Mark

theorem places_append (m : Mark) (xs ys : List Char) : m.places (xs ++ ys) = m.places xs ++ (m.past xs).places ys := by
  induction xs generalizing m with
  | nil => rfl
  | cons c xs ih => rw [List.cons_append, places, places, past_cons, ih, List.cons_append]

theorem line_le_next (m : Mark) (c : Char) : m.line ≤ (m.next c).line := by
  unfold next
  split
  · exact Nat.le_succ _
  · exact Nat.le_refl _

/-- The places of some text are from its start up to its end, and not in front of its first line. -/
theorem mem_places {m m' : Mark} {c : Char} {cs : List Char} (h : (m', c) ∈ m.places cs) :
    m.offset ≤ m'.offset ∧ m'.offset < m.offset + Text.utf8Length cs ∧ m.line ≤ m'.line := by
  induction cs generalizing m with
  | nil => cases h
  | cons d cs ih =>
    have hpos : 0 < d.utf8Size := d.utf8Size_pos
    rw [Text.utf8Length_cons]
    rcases List.mem_cons.1 h with heq | hmem
    · obtain ⟨rfl, rfl⟩ := Prod.mk.inj heq
      omega
    · obtain ⟨hstart, hstop, hline⟩ := ih hmem
      have hnext := m.line_le_next d
      rw [next_offset] at hstart hstop
      omega

/-- Up to the next line break the line stays the same. -/
theorem countP_places_line (m : Mark) (text : List Char) :
    (m.places text).countP (fun p => p.2 ≠ '\n' ∧ p.1.line = m.line) = (text.takeWhile (· != '\n')).length := by
  induction text generalizing m with
  | nil => rfl
  | cons c text ih =>
    rw [places, List.countP_cons]
    by_cases hc : c = '\n'
    · have hrest : ((m.next c).places text).countP (fun p => p.2 ≠ '\n' ∧ p.1.line = m.line) = 0 := by
        rw [List.countP_eq_zero]
        intro p hp
        have hline := (mem_places hp).2.2
        simp only [next, hc, if_true] at hline
        simp only [decide_eq_true_eq, not_and]
        omega
      rw [hrest]
      simp [hc]
    · have hline : (m.next c).line = m.line := by simp [next, hc]
      have hrest := ih (m.next c)
      rw [hline] at hrest
      rw [hrest]
      simp [hc]

end Mark

/-- Of the characters of a text, those of a region are behind what is in front of it, and in front of what is behind. -/
theorem Span.onLine_ofText (front text back : List Char) :
    (ofText front text).onLine (front ++ text ++ back) = (text.takeWhile (· != '\n')).length := by
  have hstart : (Mark.origin.past front).offset = (ofText front text).start := by
    rw [Mark.past_origin]
    rfl
  have hstop : (Mark.origin.past (front ++ text)).offset = (ofText front text).stop := by
    rw [Mark.past_origin]
    rfl
  have hline : (Mark.origin.past front).line = (ofText front text).line := by
    rw [Mark.past_origin]
    rfl
  have hfront : (Mark.origin.places front).countP ((ofText front text).Holds ·) = 0 := by
    rw [List.countP_eq_zero]
    intro p hp hholds
    have hbelow := (Mark.mem_places hp).2.1
    rw [← Mark.past_offset, hstart] at hbelow
    exact absurd (of_decide_eq_true hholds).start (Nat.not_le.2 hbelow)
  have hback : ((Mark.origin.past (front ++ text)).places back).countP ((ofText front text).Holds ·) = 0 := by
    rw [List.countP_eq_zero]
    intro p hp hholds
    have habove := (Mark.mem_places hp).1
    rw [hstop] at habove
    exact absurd (of_decide_eq_true hholds).stop (Nat.not_lt.2 habove)
  have htext : ((Mark.origin.past front).places text).countP ((ofText front text).Holds ·) =
      (text.takeWhile (· != '\n')).length := by
    rw [← Mark.countP_places_line (Mark.origin.past front), hline]
    refine List.countP_congr fun p hp => ?_
    obtain ⟨habove, hbelow, -⟩ := Mark.mem_places hp
    rw [← Mark.past_offset, ← Mark.past_append, hstop] at hbelow
    rw [hstart] at habove
    simp only [decide_eq_true_eq]
    exact ⟨fun h => h.line, fun h => ⟨h, habove, hbelow⟩⟩
  rw [onLine, Mark.places_append, Mark.places_append, List.countP_append, List.countP_append, hfront, hback, htext,
    Nat.zero_add, Nat.add_zero]

/-! ### What is printed -/

namespace Diagnostic

/-- The line of a diagnostic that says what is wrong. -/
def header (coloured : Bool) (d : Diagnostic) : String :=
  Style.boldRed.paint coloured s!"error[{d.code.name}]" ++ ": " ++ Style.bold.paint coloured d.message

/-- The line that says what to do about it, if there is one. -/
def help (coloured : Bool) (indent : String) (d : Diagnostic) : List String :=
  d.suggestion.toList.map fun text => indent ++ " = " ++ Style.cyan.paint coloured "help" ++ ": " ++ text

/-- The lines of a diagnostic at a line and a column, with a line of the program and so many carets. -/
def linesAt (coloured : Bool) (d : Diagnostic) (line column : Nat) (text : List Char) (width : Nat) : List String :=
  let number := toString line
  let gutter := blanks number.length
  let bar := Style.blue.paint coloured "│"
  let corner := Style.blue.paint coloured " ┌─"
  let carets := Style.boldRed.paint coloured (String.ofList (List.replicate width '^'))
  let label := (d.label.map fun text => " " ++ Style.red.paint coloured text).getD ""
  [ d.header coloured,
    s!"{gutter}{corner} :{number}:{column}",
    s!"{gutter} {bar}",
    Style.blue.paint coloured number ++ " " ++ bar ++ " " ++ String.ofList text,
    s!"{gutter} {bar} {blanks (column - 1)}{carets}{label}",
    s!"{gutter} {bar}" ] ++ d.help coloured gutter

/-- The lines of a diagnostic, with the excerpt that was found for it. -/
def linesOf (coloured : Bool) (d : Diagnostic) : Option Excerpt → List String
  | none => d.header coloured :: d.help coloured " "
  | some e => d.linesAt coloured e.line (e.indent + 1) e.text e.width

theorem lines_eq (source : List Char) (coloured : Bool) (d : Diagnostic) :
    d.lines source coloured = d.linesOf coloured (d.span.bind (locate source)) := by
  rw [lines]
  cases d.span.bind (locate source) with
  | none => rfl
  | some e =>
    rfl

/-! ### Printing by bytes -/

/-- The text of a diagnostic, with an excerpt that is found by slices. -/
def renderBytes (source : List Char) (coloured : Bool) (d : Diagnostic) : Except Misstep String := do
  let excerpt ← match d.span with
    | none => pure none
    | some s => locateBytes source s
  return String.join ((d.linesOf coloured excerpt).map (· ++ "\n"))

theorem renderBytes_eq (source : List Char) (coloured : Bool) (d : Diagnostic) :
    d.renderBytes source coloured = .ok (d.render source coloured) := by
  rw [render, lines_eq, renderBytes]
  cases d.span with
  | none => rfl
  | some s =>
    simp only [locateBytes_eq]
    rfl

end Diagnostic

/-- The text of all diagnostics, with excerpts that are found by slices. -/
def Diagnostics.renderBytes (ds : Diagnostics) (coloured : Bool) : Except Misstep String := do
  let texts ← ds.items.mapM (·.renderBytes ds.source.toList coloured)
  return "\n".intercalate texts

/-- Whatever the text and the regions, no slice is out of range. -/
theorem Diagnostics.renderBytes_eq (ds : Diagnostics) (coloured : Bool) :
    ds.renderBytes coloured = .ok (ds.render coloured) := by
  have hitems : ds.items.mapM (·.renderBytes ds.source.toList coloured) =
      (Except.ok (ds.items.map (·.render ds.source.toList coloured)) : Except Misstep _) := by
    simp only [Diagnostic.renderBytes_eq]
    exact List.mapM_pure
  rw [renderBytes, hitems, render]
  rfl

/-! ### Places that are printed -/

/-- The diagnostic is printed at its region: with the line and the column of the region, the line of the program that
has this number, and a caret under each character of the region on that line, from that column on. -/
structure Diagnostic.PrintedAt (source : List Char) (d : Diagnostic) (s : Span) (e : Excerpt) : Prop where
  found : locate source s = some e
  line : e.line = s.line
  column : e.indent + 1 = s.column
  text : ∃ n line, s.line = n + 1 ∧ (source.splitOn '\n')[n]? = some line ∧ e.text = trimEnd '\r' line
  width : e.width = max 1 (s.onLine source)
  printed : ∀ coloured, d.lines source coloured = d.linesAt coloured s.line s.column e.text e.width

theorem Diagnostic.About.exists_printedAt {source : List Char} {d : Diagnostic} (h : d.About source) :
    ∃ s e, d.span = some s ∧ d.PrintedAt source s e := by
  obtain ⟨front, text, back, rfl, hspan⟩ := h
  have hfound := locate_ofText front text back
  have hcolumn : (Excerpt.ofText front text back).indent + 1 = (Span.ofText front text).column := by
    simp [Excerpt.ofText, Span.ofText, List.rtakeWhile]
  refine ⟨.ofText front text, .ofText front text back, hspan, hfound, rfl, hcolumn, ?_, ?_, fun coloured => ?_⟩
  · have hline := getElem?_splitOn_line '\n' front (text ++ back)
    rw [← List.append_assoc] at hline
    exact ⟨front.count '\n', _, rfl, hline, rfl⟩
  · rw [Span.onLine_ofText]
    rfl
  · rw [lines_eq, hspan, Option.bind_some, hfound, linesOf, hcolumn]
    rfl

/-- Every diagnostic of a text that does not compile is printed at its region.  Printing diagnostics comes to an end
without a slice out of range, also those about regions that are none of the text. -/
theorem rendered_positions :
    (∀ (library : Library) (source : String) (ds : Diagnostics),
        compile library source = .error (.diagnostics ds) →
      ds.source = source ∧ ∀ d ∈ ds.items, ∃ s e, d.span = some s ∧ d.PrintedAt source.toList s e) ∧
    ∀ (ds : Diagnostics) (coloured : Bool), ds.renderBytes coloured = .ok (ds.render coloured) := by
  refine ⟨fun library source ds h => ?_, fun ds coloured => ds.renderBytes_eq coloured⟩
  obtain ⟨hsource, habout⟩ := Diagnostic.about_of_compile h
  exact ⟨hsource, fun d hd => (habout d hd).exists_printedAt⟩

/-- A call over two lines behind characters of several bytes, in a text with carriage returns; a region beyond it. -/
theorem rendered_positions_bytes :
    let library := Library.standard.only ["length"]
    let source := ".a = 1\n.b = \"日本\" + length!(.c,\r\n 2)\n"
    let beyond : Diagnostics := ⟨source, [⟨.fault, "late", some ⟨7, 400, 9, 9⟩, none, none⟩]⟩
    ∃ ds, compile library source = .error (.diagnostics ds) ∧ (∃ d ∈ ds.items, d.span = some ⟨23, 39, 2, 13⟩) ∧
      (∀ d ∈ ds.items, ∃ s e, d.span = some s ∧ d.PrintedAt source.toList s e) ∧
      beyond.renderBytes false = .ok (beyond.render false) := by
  intro library source beyond
  have hlexical : (tokenize source).2 = [] := by decide +kernel
  obtain ⟨es, hparse, hspans⟩ : ∃ es, Expr.parse (tokenize source).1 = .ok (es, []) ∧
      (Expr.resolveAll library es).issues.map (·.span) = [some ⟨23, 39, 2, 13⟩] :=
    Expr.exists_of_map_parse (by decide +kernel)
  obtain ⟨d, hd, hspan⟩ := List.mem_map.1 (hspans ▸ List.mem_singleton_self (some (⟨23, 39, 2, 13⟩ : Span)))
  obtain ⟨ds, hcompile, hmem⟩ : ∃ ds, compile library source = .error (.diagnostics ds) ∧ d ∈ ds.items := by
    refine ⟨.ofList source (Expr.resolveAll library es).issues, ?_, List.mem_mergeSort.2 hd⟩
    have hne : (Expr.resolveAll library es).issues ≠ [] := List.ne_nil_of_mem hd
    simp only [compile, hparse, hlexical]
    split
    · contradiction
    · split
      · rename_i hnil
        exact absurd hnil hne
      · rfl
  exact ⟨ds, hcompile, ⟨d, hmem, hspan⟩, (rendered_positions.1 library source ds hcompile).2,
    rendered_positions.2 beyond false⟩

end Reshape
