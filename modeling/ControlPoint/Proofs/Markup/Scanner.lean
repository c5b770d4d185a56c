import Mathlib
import ControlPoint.Markup.Scanner
import ControlPoint.Proofs.Markup.Scan

/-!
Scanning call by call. A scanner that is asked for one token at a time gives those of the whole
scan, one after another. If everything in a document can be decoded, these are its tags in their
order, with a text before, between and behind them wherever what stands there is not blank; how that
is cut into pieces and what stands between the pieces makes no difference.
-/

namespace ControlPoint.Markup

open Text

/-- There is a text between two tags just if what was gathered is not blank. -/
theorem textToken_eq (gathered : List Char) :
    textToken gathered =
      if gathered.all isBlank then [] else [.text (trim (String.ofList gathered))] := by
  have hblank : trimChars gathered = [] ↔ gathered.all isBlank = true := by
    rw [trimChars, trimWhere_eq_nil_iff, List.all_eq_true]
  unfold textToken
  split
  · rename_i hnil
    rw [if_pos (hblank.mp hnil)]
  · rename_i hne
    rw [if_neg (mt hblank.mpr hne), trim_ofList]

/-! ### Calls -/

/-- The first token of a scan with the rest of it; no token at its end. -/
def Scan.next (scan : Scan) : Except (Nat × Fault) (Option (Token × Nat) × Scan) :=
  match scan.tokens with
  | token :: rest => .ok (some token, ⟨rest, scan.ending⟩)
  | [] => scan.ending.map fun _ => (none, scan)

namespace Scanner

/-- What is left of the whole scan. -/
def scan (s : Scanner) : Scan :=
  let scan := Scan.ofEvents s.gathered s.ending s.rest
  ⟨s.queued.toList ++ scan.tokens, scan.ending⟩

theorem nextOf_scan (ending : Except (Nat × Fault) Nat) (gathered : List Char)
    (events : List (Event × Nat)) :
    (nextOf ending gathered events).map (Prod.map id scan) =
      (Scan.ofEvents gathered ending events).next := by
  induction events generalizing gathered with
  | nil =>
    cases ending with
    | error fault => rfl
    | ok stop =>
      simp only [nextOf, Scan.ofEvents, textToken_eq]
      split <;> rfl
  | cons first rest ih =>
    obtain ⟨event, stop⟩ := first
    rw [nextOf, Scan.ofEvents]
    cases event.content with
    | error fault => rfl
    | ok content =>
      cases content with
      | nothing => exact ih gathered
      | chars cs => exact ih (gathered ++ cs)
      | tag token =>
        -- a text that was gathered goes first, and the tag waits
        simp only [textToken_eq]
        by_cases hblank : gathered.all isBlank = true
        · simp only [if_pos hblank]
          rfl
        · simp only [if_neg hblank]
          rfl

/-- A call takes the first token from what is left of the scan. -/
theorem next_scan (s : Scanner) : s.next.map (Prod.map id scan) = s.scan.next := by
  unfold next
  split
  · rename_i token hqueued
    simp only [scan, hqueued]
    rfl
  · rename_i hqueued
    rw [nextOf_scan, scan, hqueued]
    rfl

/-- Where the document can be scanned to its end, a call is answered. -/
theorem next_eq {s : Scanner} {stop : Nat} (hending : s.scan.ending = .ok stop) :
    ∃ after, s.next = .ok (s.scan.tokens.head?, after) ∧
      after.scan = ⟨s.scan.tokens.tail, .ok stop⟩ := by
  have hscan : s.scan.next = .ok (s.scan.tokens.head?, ⟨s.scan.tokens.tail, .ok stop⟩) := by
    cases hleft : s.scan with
    | mk tokens ending =>
      rw [hleft] at hending
      obtain rfl : ending = .ok stop := hending
      cases tokens <;> rfl
  obtain ⟨⟨token, after⟩, hcall, hafter⟩ := exists_of_map_eq_ok (s.next_scan.trans hscan)
  obtain ⟨rfl, hrest⟩ := Prod.mk.inj hafter
  exact ⟨after, hcall, hrest⟩

/-- The calls are answered by the tokens that are left, one after another, and then by none. -/
theorem answers_eq {s : Scanner} {stop : Nat} (hending : s.scan.ending = .ok stop) (calls : Nat) :
    answers calls s = .ok ((List.range calls).map (s.scan.tokens[·]?)) := by
  induction calls generalizing s with
  | zero => rfl
  | succ calls ih =>
    obtain ⟨after, hcall, hafter⟩ := next_eq hending
    rw [answers, hcall]
    dsimp only
    rw [ih (by rw [hafter]), hafter, List.range_succ_eq_map, List.map_cons, List.map_map]
    simp [Except.map, List.head?_eq_getElem?, Function.comp_def]

/-- Whoever asks the scanner for tokens is given these, one for each call and each once, and then no
    more. -/
def Yields (s : Scanner) (tokens : List Token) : Prop :=
  ∀ calls, (answers calls s).map (List.map (Option.map Prod.fst)) =
    .ok ((List.range calls).map (tokens[·]?))

theorem yields_tokens {s : Scanner} {stop : Nat} (hending : s.scan.ending = .ok stop) :
    s.Yields (s.scan.tokens.map Prod.fst) := by
  intro calls
  rw [answers_eq hending]
  simp [Except.map]

end Scanner

/-! ### Tags and the texts between them -/

namespace Content

/-- The token of a tag. -/
def tag? : Content → Option Token
  | tag token => some token
  | _ => none

def isTag (c : Content) : Bool := c.tag?.isSome

/-- The characters of running text. -/
def running : Content → List Char
  | chars cs => cs
  | _ => []

end Content

/-- The text of contents between two tags, if it is not blank. -/
def textBetween (run : List Content) : List Token :=
  let text := run.flatMap Content.running
  if text.all isBlank then [] else [.text (trim (String.ofList text))]

/-- Contents as tokens: the tags in their order, with the texts before, between and behind them. -/
def grouped (contents : List Content) : List Token :=
  let runs := contents.splitOnP Content.isTag
  textBetween (runs.headD []) ++
    ((contents.filterMap Content.tag?).zip runs.tail).flatMap fun x => x.1 :: textBetween x.2

/-- The tokens of contents, with characters that were gathered before them. -/
def tokensFrom (gathered : List Char) : List Content → List Token
  | [] => textToken gathered
  | .nothing :: rest => tokensFrom gathered rest
  | .chars cs :: rest => tokensFrom (gathered ++ cs) rest
  | .tag token :: rest => textToken gathered ++ token :: tokensFrom [] rest

theorem textBetween_eq (run : List Content) :
    textBetween run = textToken (run.flatMap Content.running) :=
  (textToken_eq _).symm

theorem tokensFrom_eq (gathered : List Char) (contents : List Content) :
    tokensFrom gathered contents =
      textToken (gathered ++
        ((contents.splitOnP Content.isTag).headD []).flatMap Content.running) ++
      ((contents.filterMap Content.tag?).zip (contents.splitOnP Content.isTag).tail).flatMap
        fun x => x.1 :: textBetween x.2 := by
  induction contents generalizing gathered with
  | nil => simp [tokensFrom]
  | cons c rest ih =>
    obtain ⟨run, runs, hruns⟩ :=
      List.exists_cons_of_ne_nil (List.splitOnP_ne_nil Content.isTag rest)
    rw [List.splitOnP_cons_eq_if_modifyHead, List.filterMap_cons]
    cases c with
    | nothing => simp [tokensFrom, ih, hruns, Content.isTag, Content.tag?, Content.running]
    | chars cs => simp [tokensFrom, ih, hruns, Content.isTag, Content.tag?, Content.running]
    | tag token =>
      simp [tokensFrom, ih, hruns, Content.isTag, Content.tag?, textBetween_eq]

theorem grouped_eq (contents : List Content) : grouped contents = tokensFrom [] contents := by
  rw [tokensFrom_eq, List.nil_append, ← textBetween_eq]
  rfl

/-! ### Events that can be decoded -/

/-- The contents of events, if all of them can be decoded. -/
def contentsOf (events : List (Event × Nat)) : Except Fault (List Content) :=
  events.mapM fun e => e.1.content

@[simp] theorem contentsOf_nil : contentsOf [] = .ok [] := rfl

theorem contentsOf_append (first second : List (Event × Nat)) :
    contentsOf (first ++ second) =
      (contentsOf first).bind fun cs => (contentsOf second).map (cs ++ ·) := by
  rw [contentsOf, List.mapM_append]
  rfl

theorem contentsOf_cons (e : Event × Nat) (rest : List (Event × Nat)) :
    contentsOf (e :: rest) = e.1.content.bind fun c => (contentsOf rest).map (c :: ·) := by
  rw [contentsOf, List.mapM_cons]
  rfl

/-- Events can be decoded together just if each of them can. -/
theorem contentsOf_cons_eq_ok {e : Event × Nat} {rest : List (Event × Nat)}
    {contents : List Content} (hdecodes : contentsOf (e :: rest) = .ok contents) :
    ∃ c cs, e.1.content = .ok c ∧ contentsOf rest = .ok cs ∧ contents = c :: cs := by
  rw [contentsOf_cons] at hdecodes
  cases hfirst : e.1.content with
  | error fault => simp [hfirst, Except.bind] at hdecodes
  | ok c =>
    rw [hfirst] at hdecodes
    obtain ⟨cs, hrest, rfl⟩ := exists_of_map_eq_ok hdecodes
    exact ⟨c, cs, rfl, hrest, rfl⟩

/-- The whole scan of events that can be decoded has the tokens of their contents. -/
theorem ofEvents_of_contentsOf {events : List (Event × Nat)} {contents : List Content}
    (hdecodes : contentsOf events = .ok contents) (gathered : List Char) (stop : Nat) :
    (Scan.ofEvents gathered (.ok stop) events).tokens.map Prod.fst = tokensFrom gathered contents ∧
      (Scan.ofEvents gathered (.ok stop) events).ending = .ok stop := by
  induction events generalizing gathered contents with
  | nil =>
    obtain rfl := Except.ok.inj hdecodes
    simp [Scan.ofEvents, tokensFrom, Function.comp_def]
  | cons e rest ih =>
    obtain ⟨c, cs, hfirst, hrest, rfl⟩ := contentsOf_cons_eq_ok hdecodes
    obtain ⟨event, stop'⟩ := e
    rw [Scan.ofEvents, show event.content = _ from hfirst]
    cases c with
    | nothing => exact ih hrest gathered
    | chars cs => exact ih hrest (gathered ++ cs)
    | tag token =>
      obtain ⟨htokens, hending⟩ := ih hrest []
      refine ⟨?_, hending⟩
      simp [tokensFrom, htokens, Function.comp_def]

theorem yields_grouped {events : List (Event × Nat)} {contents : List Content}
    (hdecodes : contentsOf events = .ok contents) (stop : Nat) :
    (Scanner.ofReading ⟨events, .ok stop⟩).Yields (grouped contents) := by
  obtain ⟨htokens, hending⟩ := ofEvents_of_contentsOf hdecodes [] stop
  rw [grouped_eq, ← htokens]
  exact Scanner.yields_tokens hending

/-! ### Tokens of contents -/

/-- Tags are no texts. -/
def HasTags (contents : List Content) : Prop :=
  ∀ c ∈ contents, ∀ token, c = .tag token → token.isText = false

theorem hasTags_of_contentsOf {events : List (Event × Nat)} {contents : List Content}
    (hdecodes : contentsOf events = .ok contents) : HasTags contents := by
  induction events generalizing contents with
  | nil =>
    obtain rfl := Except.ok.inj hdecodes
    simp [HasTags]
  | cons e rest ih =>
    obtain ⟨c, cs, hfirst, hrest, rfl⟩ := contentsOf_cons_eq_ok hdecodes
    refine List.forall_mem_cons.mpr ⟨?_, ih hrest⟩
    rintro token rfl
    exact Event.isText_of_content hfirst

theorem isText_of_mem_textToken {gathered : List Char} :
    ∀ token ∈ textToken gathered, token.isText = true := by
  rw [textToken_eq]
  split <;> simp [Token.isText]

/-- No tag is lost, and none comes twice. -/
theorem filter_tokensFrom {contents : List Content} (htags : HasTags contents)
    (gathered : List Char) :
    (tokensFrom gathered contents).filter (fun token => !token.isText) =
      contents.filterMap Content.tag? := by
  have htext : ∀ cs, (textToken cs).filter (fun token => !token.isText) = [] := by
    intro cs
    rw [List.filter_eq_nil_iff]
    intro token htoken
    simp [isText_of_mem_textToken token htoken]
  induction contents generalizing gathered with
  | nil => exact htext gathered
  | cons c rest ih =>
    obtain ⟨hfirst, hrest⟩ := List.forall_mem_cons.mp htags
    rw [List.filterMap_cons]
    cases c with
    | nothing => exact ih hrest gathered
    | chars cs => exact ih hrest (gathered ++ cs)
    | tag token =>
      rw [tokensFrom, List.filter_append, htext, List.nil_append,
        List.filter_cons_of_pos (by simp [hfirst token rfl]), ih hrest []]
      rfl

/-- No two texts come one after the other. -/
theorem isChain_tokensFrom {contents : List Content} (htags : HasTags contents)
    (gathered : List Char) :
    (tokensFrom gathered contents).IsChain fun a b => ¬ (a.isText = true ∧ b.isText = true) := by
  have htext : ∀ cs, (textToken cs).IsChain fun a b => ¬ (a.isText = true ∧ b.isText = true) := by
    intro cs
    rw [textToken_eq]
    split <;> simp
  induction contents generalizing gathered with
  | nil => exact htext gathered
  | cons c rest ih =>
    obtain ⟨hfirst, hrest⟩ := List.forall_mem_cons.mp htags
    cases c with
    | nothing => exact ih hrest gathered
    | chars cs => exact ih hrest (gathered ++ cs)
    | tag token =>
      have htag := hfirst token rfl
      rw [tokensFrom, List.isChain_append, List.isChain_cons]
      exact ⟨htext gathered, ⟨by simp [htag], ih hrest []⟩, by simp [htag]⟩

/-! ### Edits -/

/-- One change to the events of a document: something that carries no content is put in, or running
    text is cut into pieces, of whatever kind they are. -/
inductive Edit : List (Event × Nat) → List (Event × Nat) → Prop
  | silent (before after : List (Event × Nat)) {e : Event} (stop : Nat)
      (hsilent : e ∈ [Event.comment, .instruction, .doctype]) :
      Edit (before ++ after) (before ++ ([(e, stop)] ++ after))
  | split (before after : List (Event × Nat)) {whole : Event} {pieces : List (Event × Nat)}
      (stop : Nat) {parts : List (List Char)}
      (hwhole : whole.content = .ok (.chars parts.flatten))
      (hpieces : contentsOf pieces = .ok (parts.map Content.chars)) :
      Edit (before ++ ([(whole, stop)] ++ after)) (before ++ (pieces ++ after))

theorem tokensFrom_append_congr {first second : List Content}
    (hsame : ∀ gathered, tokensFrom gathered first = tokensFrom gathered second)
    (before : List Content) (gathered : List Char) :
    tokensFrom gathered (before ++ first) = tokensFrom gathered (before ++ second) := by
  induction before generalizing gathered with
  | nil => exact hsame gathered
  | cons c rest ih => cases c <;> simp [tokensFrom, ih]

theorem tokensFrom_chars_append (parts : List (List Char)) (rest : List Content)
    (gathered : List Char) :
    tokensFrom gathered (parts.map Content.chars ++ rest) =
      tokensFrom (gathered ++ parts.flatten) rest := by
  induction parts generalizing gathered with
  | nil => simp
  | cons part others ih => simp [tokensFrom, ih]

/-- Parts that come to the same tokens before anything can stand for each other anywhere. -/
theorem map_grouped_congr {first second : List (Event × Nat)} {cs cs' : List Content}
    (hfirst : contentsOf first = .ok cs) (hsecond : contentsOf second = .ok cs')
    (hsame : ∀ rest gathered, tokensFrom gathered (cs ++ rest) = tokensFrom gathered (cs' ++ rest))
    (before after : List (Event × Nat)) :
    (contentsOf (before ++ (first ++ after))).map grouped =
      (contentsOf (before ++ (second ++ after))).map grouped := by
  rw [contentsOf_append, contentsOf_append, contentsOf_append, contentsOf_append, hfirst, hsecond]
  cases contentsOf before with
  | error fault => rfl
  | ok earlier =>
    cases contentsOf after with
    | error fault => rfl
    | ok later =>
      simp only [Except.bind, Except.map, grouped_eq]
      rw [tokensFrom_append_congr (hsame later) earlier []]

/-- No edit changes the tokens, nor whether all events can be decoded. -/
theorem Edit.map_grouped {events events' : List (Event × Nat)} (hedit : Edit events events') :
    (contentsOf events).map grouped = (contentsOf events').map grouped := by
  cases hedit with
  | @silent before after e stop hsilent =>
    have hsecond : contentsOf [(e, stop)] = .ok [.nothing] := by
      simp only [List.mem_cons, List.not_mem_nil, or_false] at hsilent
      rcases hsilent with rfl | rfl | rfl <;> rfl
    exact map_grouped_congr contentsOf_nil hsecond (fun _ _ => rfl) before after
  | @split before after whole pieces stop parts hwhole hpieces =>
    have hfirst : contentsOf [(whole, stop)] = .ok [.chars parts.flatten] := by
      rw [contentsOf_cons, hwhole]
      rfl
    refine map_grouped_congr hfirst hpieces (fun rest gathered => ?_) before after
    rw [tokensFrom_chars_append]
    rfl

theorem map_grouped_of_eqvGen {events events' : List (Event × Nat)}
    (hedits : Relation.EqvGen Edit events events') :
    (contentsOf events).map grouped = (contentsOf events').map grouped := by
  induction hedits with
  | rel _ _ hedit => exact hedit.map_grouped
  | refl => rfl
  | symm _ _ _ ih => exact ih.symm
  | trans _ _ _ _ _ ih ih' => exact ih.trans ih'

/-- Where everything can be decoded, a scanner that is asked call by call gives the tags in their
    order with the texts between them, and so does the whole scan; no tag is lost or comes twice, no
    two texts come one after the other, and edits of what stands between the tags change nothing. -/
theorem scanner_yields_grouped {events : List (Event × Nat)} {contents : List Content}
    (hdecodes : contentsOf events = .ok contents) (stop : Nat) :
    (Scanner.ofReading ⟨events, .ok stop⟩).Yields (grouped contents) ∧
      (Scan.ofEvents [] (.ok stop) events).tokens.map Prod.fst = grouped contents ∧
      (grouped contents).filter (fun token => !token.isText) = contents.filterMap Content.tag? ∧
      (grouped contents).IsChain (fun a b => ¬ (a.isText = true ∧ b.isText = true)) ∧
      ∀ events' stop', Relation.EqvGen Edit events events' →
        (Scanner.ofReading ⟨events', .ok stop'⟩).Yields (grouped contents) := by
  have htags := hasTags_of_contentsOf hdecodes
  refine ⟨yields_grouped hdecodes stop, ?whole, ?tags, ?apart, fun events' stop' hedits => ?edits⟩
  case whole => rw [grouped_eq, (ofEvents_of_contentsOf hdecodes [] stop).1]
  case tags => rw [grouped_eq, filter_tokensFrom htags]
  case apart =>
    rw [grouped_eq]
    exact isChain_tokensFrom htags []
  case edits =>
    have hsame := map_grouped_of_eqvGen hedits
    rw [hdecodes, eq_comm] at hsame
    obtain ⟨contents', hdecodes', hgrouped⟩ := exists_of_map_eq_ok hsame
    rw [← hgrouped]
    exact yields_grouped hdecodes' stop'

/-- A title that is written in pieces, after a declaration and before an empty element. -/
def titleEvents : List (Event × Nat) :=
  [(.instruction, 21), (.text ['\n'], 22), (.start "t:title id='1'".toList, 38),
    (.text " Rock ".toList, 44), (.reference "amp".toList, 49), (.comment, 58),
    (.verbatim " Roll".toList, 75), (.empty "br".toList, 80), (.text [' '], 81),
    (.close "t:title".toList, 91)]

def titleContents : List Content :=
  [.nothing, .chars ['\n'], .tag (.start ⟨"title", [("id", "1")]⟩), .chars " Rock ".toList,
    .chars ['&'], .nothing, .chars " Roll".toList, .tag (.empty ⟨"br", []⟩), .chars [' '],
    .tag (.close "title")]

def titleTokens : List Token :=
  [.start ⟨"title", [("id", "1")]⟩, .text "Rock & Roll", .empty ⟨"br", []⟩, .close "title"]

theorem contentsOf_title : contentsOf titleEvents = .ok titleContents := by
  rfl

theorem grouped_title : grouped titleContents = titleTokens := by
  rfl

/-- The pieces of the title are one text, which a further comment does not cut. -/
theorem title_yields : contentsOf titleEvents = .ok titleContents ∧
    grouped titleContents = titleTokens ∧
    (Scanner.ofReading ⟨titleEvents, .ok 91⟩).Yields titleTokens ∧
    (Scanner.ofReading ⟨titleEvents.insertIdx 4 (.comment, 51), .ok 98⟩).Yields titleTokens := by
  obtain ⟨hyields, -, -, -, hedits⟩ := scanner_yields_grouped contentsOf_title 91
  rw [grouped_title] at hyields hedits
  refine ⟨contentsOf_title, grouped_title, hyields, hedits _ 98 (.rel _ _ ?_)⟩
  exact .silent (titleEvents.take 4) (titleEvents.drop 4) 51 (by decide)

end ControlPoint.Markup
