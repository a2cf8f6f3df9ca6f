import SchemaDesk.Http.Route
import SchemaDesk.Proofs.Text.Separated
/-!
# Paths of endpoints

Every endpoint is reached by its method and its path, whatever fills the parts of the path and
whatever the paths of the interface begin with (`Route.target_path`). Two endpoints with one method
never have a path in common: their patterns differ in length or in a word (`Segment.clashes`).
-/

namespace SchemaDesk

namespace Segment

/-- Texts that the parts of a pattern can be: as many as the pattern has parts, none of them empty
or with a slash. -/
inductive Fits : List Segment → List Text → Prop where
  | nil : Fits [] []
  | word {pattern : List Segment} {parts : List Text} (word : Text) (fits : Fits pattern parts) :
    Fits (.word word :: pattern) parts
  | part {pattern : List Segment} {parts : List Text} {text : Text} (filled : text ≠ [])
    (free : .char '/' ∉ text) (fits : Fits pattern parts) : Fits (.part :: pattern) (text :: parts)

/-- The texts of a path that fits a pattern, with given texts for the parts. -/
def fill : List Segment → List Text → List Text
  | .word text :: pattern, parts => text :: fill pattern parts
  | .part :: pattern, text :: parts => text :: fill pattern parts
  | _, _ => []

/-- Whether a segment is no word with a slash. -/
def isFree : Segment → Bool
  | .word text => !text.contains (.char '/')
  | .part => true

/-- Whether two patterns differ in length or in a word. A line feed after a word of the first one
does not count. -/
def clashes : List Segment → List Segment → Bool
  | [], [] => false
  | .word left :: lefts, .word right :: rights =>
    (right != left && right != left ++ [.char '\n']) || clashes lefts rights
  | _ :: lefts, _ :: rights => clashes lefts rights
  | _, _ => true

variable {pattern other : List Segment} {parts texts : List Text}

/-- Words before a pattern take no parts. -/
theorem Fits.words (words : List Text) (fits : Fits pattern parts) :
    Fits (words.map .word ++ pattern) parts := by
  induction words with
  | nil => exact fits
  | cons word rest ih => exact .word word ih

/-- Words before a pattern come first in the path that fills it. -/
theorem fill_words (words : List Text) (pattern : List Segment) (parts : List Text) :
    fill (words.map .word ++ pattern) parts = words ++ fill pattern parts := by
  induction words with
  | nil => rfl
  | cons word rest ih => exact congrArg (word :: ·) ih

/-- Patterns behind the same words clash exactly when they do without them. -/
theorem clashes_words (words : List Text) (pattern other : List Segment) :
    clashes (words.map .word ++ pattern) (words.map .word ++ other) = clashes pattern other := by
  induction words with
  | nil => rfl
  | cons word rest ih => simpa [clashes] using ih

/-- Patterns of different lengths clash. -/
theorem clashes_of_length_ne (length : pattern.length ≠ other.length) :
    clashes pattern other = true := by
  induction pattern generalizing other with
  | nil =>
    cases other with
    | nil => exact absurd rfl length
    | cons _ _ => rfl
  | cons left lefts ih =>
    cases other with
    | nil => cases left <;> rfl
    | cons right rights =>
      have later : clashes lefts rights = true := ih fun same => length (congrArg (· + 1) same)
      cases left <;> cases right <;> simp [clashes, later]

/-- The path that fills a pattern has a text for every segment. -/
theorem length_fill (fits : Fits pattern parts) :
    (fill pattern parts).length = pattern.length := by
  induction fits with
  | nil => rfl
  | word word fits ih => exact congrArg (· + 1) ih
  | part some free fits ih => exact congrArg (· + 1) ih

/-- The texts that fill a pattern have no slash when its words have none. -/
theorem slash_notMem_fill (fits : Fits pattern parts)
    (free : ∀ segment ∈ pattern, segment.isFree = true) :
    ∀ text ∈ fill pattern parts, .char '/' ∉ text := by
  induction fits with
  | nil => exact fun text mem => absurd mem List.not_mem_nil
  | word word fits ih =>
    intro text mem
    rcases List.mem_cons.mp mem with rfl | later
    · simpa [isFree] using free (.word text) List.mem_cons_self
    · exact ih (fun segment mem => free segment (List.mem_cons_of_mem _ mem)) text later
  | part some slashFree fits ih =>
    intro text mem
    rcases List.mem_cons.mp mem with rfl | later
    · exact slashFree
    · exact ih (fun segment mem => free segment (List.mem_cons_of_mem _ mem)) text later

end Segment

namespace Route

open Segment (Fits fill clashes)

variable {segments other : List Segment} {parts texts : List Text} {word text : Text}

/-! ## Matching -/

/-- A word is matched by itself. -/
theorem matchParts?_word_self (segments : List Segment) (word : Text) (texts : List Text) :
    matchParts? (.word word :: segments) (word :: texts) = matchParts? segments texts := by
  cases segments <;> cases texts <;> simp [matchParts?]

/-- A word is matched by no other text, except for one line end behind it. -/
theorem matchParts?_word_of_ne (same : text ≠ word) (line : text ≠ word ++ [.char '\n'])
    (segments : List Segment) (texts : List Text) :
    matchParts? (.word word :: segments) (text :: texts) = none := by
  cases segments <;> cases texts <;> simp [matchParts?, same, line]

/-- No text in front makes a path match that does not match. -/
theorem matchParts?_cons_of_none (unmatched : matchParts? segments texts = none)
    (segment : Segment) (text : Text) :
    matchParts? (segment :: segments) (text :: texts) = none := by
  cases segment with
  | word word =>
    cases segments with
    | nil =>
      cases texts with
      | nil => cases unmatched
      | cons _ _ => simp [matchParts?]
    | cons _ _ => simp [matchParts?, unmatched]
  | part => simp [matchParts?, unmatched]

/-- A path that fills a pattern matches it with the parts that it is filled with. -/
theorem matchParts?_fill (fits : Fits segments parts) :
    matchParts? segments (fill segments parts) = some parts := by
  induction fits with
  | nil => rfl
  | word word fits ih => rw [fill, matchParts?_word_self, ih]
  | part some free fits ih => rw [fill, matchParts?, if_neg some, ih, Option.map_some]

/-- A path that fills a pattern matches none that the pattern clashes with. -/
theorem matchParts?_of_clashes (clash : clashes segments other = true) (fits : Fits other parts) :
    matchParts? segments (fill other parts) = none := by
  induction fits generalizing segments with
  | nil =>
    match segments with
    | [] => cases clash
    | [.word _] => rfl
    | .word _ :: _ :: _ => rfl
    | .part :: _ => rfl
  | word right fits ih =>
    match segments with
    | [] => rfl
    | .word left :: lefts =>
      rw [clashes, Bool.or_eq_true, Bool.and_eq_true, bne_iff_ne, bne_iff_ne] at clash
      rcases clash with ⟨same, line⟩ | later
      · exact matchParts?_word_of_ne same line _ _
      · exact matchParts?_cons_of_none (ih later) _ _
    | .part :: lefts => exact matchParts?_cons_of_none (ih clash) _ _
  | part some free fits ih =>
    match segments with
    | [] => rfl
    | .word left :: lefts => exact matchParts?_cons_of_none (ih clash) _ _
    | .part :: lefts => exact matchParts?_cons_of_none (ih clash) _ _

/-! ## Splitting -/

/-- A path of texts without slashes is split into these texts. -/
theorem split?_flatMap (left : texts ≠ []) (free : ∀ text ∈ texts, .char '/' ∉ text) :
    split? (texts.flatMap (.char '/' :: ·)) = some texts := by
  cases texts with
  | nil => exact absurd rfl left
  | cons first rest =>
    have cut := Text.cutAll_flatMap (free first List.mem_cons_self)
      fun text mem => free text (List.mem_cons_of_mem _ mem)
    exact congrArg some cut

/-- A path that is split is put together from its texts, and they have no slashes. -/
theorem of_split? {path : Text} (split : split? path = some texts) :
    path = texts.flatMap (.char '/' :: ·) ∧ ∀ text ∈ texts, .char '/' ∉ text := by
  unfold split? at split
  split at split
  · next rest =>
    obtain rfl := Option.some.inj split
    refine ⟨?_, fun text => Text.separator_notMem_cutAll⟩
    have joined := Text.intercalate_cutAll (.char '/') rest
    rw [Text.cutAll, Text.intercalate_cons] at joined
    rw [Text.cutAll, List.flatMap_cons]
    exact congrArg (.char '/' :: ·) joined.symm
  · cases split

/-! ## Endpoints -/

/-- The words that the paths of the interface begin with. -/
def rootWords (root : Text) : List Text := (split? root).getD []

/-- The path of an endpoint, with given texts for its parts. -/
def path (root : Text) (endpoint : Endpoint) (parts : List Text) : Text :=
  (fill (pattern root endpoint) parts).flatMap (.char '/' :: ·)

example : path "/api/v1" .schema ["a"] = Text.ofString "/api/v1/models/a/schema" := by
  decide +kernel

/-- Every endpoint is in the list of all. -/
theorem mem_all_endpoints (endpoint : Endpoint) : endpoint ∈ Endpoint.all := by
  cases endpoint <;> decide

/-- The pattern of an endpoint of the interface has the words of the root first. -/
theorem pattern_of_isUnderRoot (root : Text) {endpoint : Endpoint}
    (under : endpoint.isUnderRoot = true) :
    pattern root endpoint = (rootWords root).map .word ++ endpoint.segments := by
  rw [pattern, if_pos under]
  rfl

/-- Any other endpoint has its segments for a pattern. -/
theorem pattern_of_not_isUnderRoot (root : Text) {endpoint : Endpoint}
    (under : endpoint.isUnderRoot = false) : pattern root endpoint = endpoint.segments := by
  rw [pattern, if_neg (by rw [under]; exact Bool.false_ne_true)]
  rfl

/-- The words of the root hold no slash. -/
theorem isFree_rootWords {root text : Text} (mem : text ∈ rootWords root) :
    (Segment.word text).isFree = true := by
  rw [rootWords] at mem
  cases split : split? root with
  | none =>
    rw [split] at mem
    cases mem
  | some texts =>
    rw [split] at mem
    simpa [Segment.isFree] using (of_split? split).2 text mem

/-- The words of the endpoints hold no slash. -/
theorem isFree_segments : ∀ endpoint ∈ Endpoint.all, ∀ segment ∈ endpoint.segments,
    segment.isFree = true := by
  decide +kernel

/-- The words of a pattern hold no slash. -/
theorem isFree_pattern (root : Text) (endpoint : Endpoint) :
    ∀ segment ∈ pattern root endpoint, segment.isFree = true := by
  intro segment mem
  rcases List.mem_append.mp mem with word | own
  · split at word
    · obtain ⟨text, rooted, rfl⟩ := List.mem_map.mp word
      exact isFree_rootWords rooted
    · cases word
  · exact isFree_segments endpoint (mem_all_endpoints endpoint) segment own

/-- Two endpoints with one method differ in their segments. -/
theorem clashes_segments : ∀ left ∈ Endpoint.all, ∀ right ∈ Endpoint.all,
    left.method = right.method → left ≠ right → clashes left.segments right.segments = true := by
  decide +kernel

/-- An endpoint whose path does not begin like those of the interface has one segment. -/
theorem length_segments : ∀ endpoint ∈ Endpoint.all,
    0 < endpoint.segments.length ∧
      (endpoint.isUnderRoot = false → endpoint.segments.length = 1) := by
  decide

/-- Two endpoints with one method have patterns that clash, whatever the paths of the interface
begin with. -/
theorem clashes_pattern (root : Text) {left right : Endpoint} (method : left.method = right.method)
    (other : left ≠ right) : clashes (pattern root left) (pattern root right) = true := by
  have apart := clashes_segments left (mem_all_endpoints left) right (mem_all_endpoints right)
    method other
  have leftLength := length_segments left (mem_all_endpoints left)
  have rightLength := length_segments right (mem_all_endpoints right)
  -- A path of the interface with words before its segments is longer than any that has none.
  cases leftUnder : left.isUnderRoot <;> cases rightUnder : right.isUnderRoot
  · rw [pattern_of_not_isUnderRoot root leftUnder, pattern_of_not_isUnderRoot root rightUnder]
    exact apart
  · rw [pattern_of_not_isUnderRoot root leftUnder, pattern_of_isUnderRoot root rightUnder]
    cases words : rootWords root with
    | nil => exact apart
    | cons word rest =>
      refine Segment.clashes_of_length_ne ?_
      simp only [List.length_append, List.length_map, List.length_cons]
      have one := leftLength.2 leftUnder
      omega
  · rw [pattern_of_isUnderRoot root leftUnder, pattern_of_not_isUnderRoot root rightUnder]
    cases words : rootWords root with
    | nil => exact apart
    | cons word rest =>
      refine Segment.clashes_of_length_ne ?_
      simp only [List.length_append, List.length_map, List.length_cons]
      have one := rightLength.2 rightUnder
      omega
  · rw [pattern_of_isUnderRoot root leftUnder, pattern_of_isUnderRoot root rightUnder,
      Segment.clashes_words]
    exact apart

/-- The candidates for a path are the endpoints whose pattern its texts match. -/
theorem mem_candidates {root path : Text} {endpoint : Endpoint} {parts : List Text} :
    (endpoint, parts) ∈ candidates root path ↔
      ∃ texts, split? path = some texts ∧
        matchParts? (pattern root endpoint) texts = some parts := by
  rw [candidates]
  cases split : split? path with
  | none => simp
  | some texts =>
    simp only [List.mem_filterMap, Option.map_eq_some_iff, Prod.mk.injEq, Option.some.injEq,
      exists_eq_left']
    constructor
    · rintro ⟨_, -, _, matched, rfl, rfl⟩
      exact matched
    · exact fun matched => ⟨endpoint, mem_all_endpoints endpoint, parts, matched, rfl, rfl⟩

/-- Parts that fit the segments of an endpoint fit its pattern. -/
theorem fits_pattern (root : Text) {endpoint : Endpoint} (fits : Fits endpoint.segments parts) :
    Fits (pattern root endpoint) parts := by
  cases under : endpoint.isUnderRoot with
  | true => exact pattern_of_isUnderRoot root under ▸ fits.words _
  | false => exact pattern_of_not_isUnderRoot root under ▸ fits

/-- The path of an endpoint is split into the texts that it is put together from. -/
theorem split?_path (root : Text) {endpoint : Endpoint} (fits : Fits endpoint.segments parts) :
    split? (path root endpoint parts) = some (fill (pattern root endpoint) parts) := by
  have fits' := fits_pattern root fits
  refine split?_flatMap ?_ (Segment.slash_notMem_fill fits' (isFree_pattern root endpoint))
  have positive := (length_segments endpoint (mem_all_endpoints endpoint)).1
  rw [← List.length_pos_iff, Segment.length_fill fits', pattern, List.length_append]
  omega

/-- Every endpoint is reached by its method and its path. -/
theorem target_path (root : Text) {endpoint : Endpoint} (fits : Fits endpoint.segments parts) :
    target root endpoint.method (path root endpoint parts) = .endpoint endpoint parts := by
  have fits' := fits_pattern root fits
  have split := split?_path root fits
  have mem : (endpoint, parts) ∈ candidates root (path root endpoint parts) :=
    mem_candidates.mpr ⟨_, split, matchParts?_fill fits'⟩
  have unique : ∀ candidate ∈ candidates root (path root endpoint parts),
      (Text.ofString candidate.1.method == Text.ofString endpoint.method) = true →
        candidate = (endpoint, parts) := by
    rintro ⟨other, otherParts⟩ otherMem method
    have method : other.method = endpoint.method := Text.ofString_inj.mp (beq_iff_eq.mp method)
    obtain ⟨texts, otherSplit, matched⟩ := mem_candidates.mp otherMem
    obtain rfl := Option.some.inj (split.symm.trans otherSplit)
    by_cases same : other = endpoint
    · subst same
      rw [matchParts?_fill fits'] at matched
      rw [Option.some.inj matched]
    · rw [matchParts?_of_clashes (clashes_pattern root method same) fits'] at matched
      cases matched
  have found : ((candidates root (path root endpoint parts)).find?
      (Text.ofString ·.1.method == Text.ofString endpoint.method)).isSome = true :=
    List.find?_isSome.mpr ⟨_, mem, beq_self_eq_true _⟩
  obtain ⟨candidate, found⟩ := Option.isSome_iff_exists.mp found
  have method := List.find?_some found
  rw [unique candidate (List.mem_of_find?_eq_some found) method] at found
  rw [target, found]

/-- The endpoint that a request is for has the method and is a candidate for the path. -/
theorem candidates_of_target {root method path : Text} {endpoint : Endpoint}
    (found : target root method path = .endpoint endpoint parts) :
    Text.ofString endpoint.method = method ∧ (endpoint, parts) ∈ candidates root path := by
  rw [target] at found
  split at found
  · next candidate parts chosen =>
    obtain ⟨rfl, rfl⟩ := Target.endpoint.inj found
    have method := List.find?_some chosen
    exact ⟨beq_iff_eq.mp method, List.mem_of_find?_eq_some chosen⟩
  · split at found
    · cases found
    · split at found
      · cases found
      · cases found

/-- A path that matches words before a pattern is made of these words and a path that matches the
pattern. -/
theorem matchParts?_words {words : List Text} (left : segments ≠ [])
    (matched : matchParts? (words.map .word ++ segments) texts = some parts) :
    ∃ rest, texts = words ++ rest ∧ matchParts? segments rest = some parts := by
  induction words generalizing texts with
  | nil => exact ⟨texts, rfl, matched⟩
  | cons word words ih =>
    have more : words.map .word ++ segments ≠ [] := List.append_ne_nil_of_right_ne_nil _ left
    rw [List.map_cons, List.cons_append] at matched
    obtain ⟨segment, later, same⟩ := List.exists_cons_of_ne_nil more
    cases texts with
    | nil => simp [same, matchParts?] at matched
    | cons text texts =>
      have step : text = word ∧ matchParts? (words.map .word ++ segments) texts = some parts := by
        simpa [same, matchParts?] using matched
      obtain ⟨rest, rfl, own⟩ := ih step.2
      exact ⟨rest, by rw [step.1, List.cons_append], own⟩

/-- A path that matches the pattern of a session is made of one word and a text that is not empty,
the part. -/
theorem of_matchParts?_getSession
    (matched : matchParts? Endpoint.getSession.segments texts = some parts) :
    ∃ text, texts = [Text.ofString "models", text] ∧ text ≠ [] ∧ parts = [text] := by
  match texts with
  | [] => cases matched
  | [first] => simp [Endpoint.segments, matchParts?] at matched
  | [first, text] =>
    simp only [Endpoint.segments, matchParts?, Option.map_some, Option.ite_none_right_eq_some,
      Option.ite_none_left_eq_some, Option.some.injEq] at matched
    exact ⟨text, by rw [matched.1], matched.2.1, matched.2.2.symm⟩
  | first :: second :: third :: rest => simp [Endpoint.segments, matchParts?] at matched

/-- A path is the one of the model of a session only when its text fits the part of the session. -/
theorem fits_of_target {root method session : Text}
    (found : target root method (path root .getSession [session]) = .endpoint .getSession parts) :
    Fits Endpoint.getSession.segments [session] ∧ parts = [session] := by
  obtain ⟨-, mem⟩ := candidates_of_target found
  obtain ⟨texts, split, matched⟩ := mem_candidates.mp mem
  have under := pattern_of_isUnderRoot root (rfl : Endpoint.getSession.isUnderRoot = true)
  rw [under] at matched
  obtain ⟨rest, rfl, own⟩ := matchParts?_words (List.cons_ne_nil _ _) matched
  obtain ⟨text, rfl, filled, rfl⟩ := of_matchParts?_getSession own
  obtain ⟨same, free⟩ := of_split? split
  obtain rfl : session = text := by
    rw [path, under, Segment.fill_words, List.flatMap_append, List.flatMap_append] at same
    have tail := List.append_cancel_left same
    simpa [Endpoint.segments, fill] using tail
  exact ⟨.word _ (.part filled (free _ (by simp)) .nil), rfl⟩

/-- A path that matches a pattern gives a part for every segment that takes one. -/
theorem length_of_matchParts?
    (matched : matchParts? segments texts = some parts) : parts.length = segments.count .part := by
  induction segments generalizing texts parts with
  | nil =>
    cases texts with
    | nil =>
      rw [← Option.some.inj matched]
      rfl
    | cons text rest => cases matched
  | cons segment segments ih =>
    cases texts with
    | nil => cases segment <;> cases segments <;> cases matched
    | cons text rest =>
      cases segment with
      | part =>
        simp only [matchParts?, Option.ite_none_left_eq_some, Option.map_eq_some_iff] at matched
        obtain ⟨-, later, later_matched, rfl⟩ := matched
        rw [List.length_cons, List.count_cons_self, ih later_matched]
      | word word =>
        rw [List.count_cons_of_ne (by simp)]
        cases segments with
        | nil =>
          cases rest with
          | nil =>
            simp only [matchParts?, Option.ite_none_right_eq_some, Option.some.injEq] at matched
            rw [← matched.2]
            rfl
          | cons => simp [matchParts?] at matched
        | cons =>
          simp only [matchParts?, Option.ite_none_right_eq_some] at matched
          exact ih matched.2

/-- The parts of the path of an endpoint: one for every segment of it that takes one. -/
theorem length_parts {root method path : Text} {endpoint : Endpoint}
    (found : target root method path = .endpoint endpoint parts) :
    parts.length = endpoint.segments.count .part := by
  obtain ⟨-, mem⟩ := candidates_of_target found
  obtain ⟨texts, -, matched⟩ := mem_candidates.mp mem
  have words : ((if endpoint.isUnderRoot then ((split? root).getD []).map .word else []) :
      List Segment).count .part = 0 := by
    rw [List.count_eq_zero]
    split
    · simp
    · exact List.not_mem_nil
  rw [length_of_matchParts? matched, pattern, List.count_append, words, Nat.zero_add]

end Route

end SchemaDesk
