import ReportIndex.Page.Policy
import ReportIndex.Proofs.Asset.Address
import ReportIndex.Proofs.Text.Bytes

/-!
Contract: the policy of a page fits the images of the page.

Owns:
- reading the text of a policy directive by directive, word by word;
- the directives of a page's policy;
- when the addresses of illustrations are at a plain origin;
- what a policy allows for images, against the policy that every other page has.

Does not own: where the policy stands in a page.
-/

namespace ReportIndex.Page

/-! ## Reading a policy -/

/-- A directive of a policy: what it governs, and the sources it allows. -/
structure Directive where
  name : String
  sources : List String
deriving DecidableEq, Repr

/-- A directive's text, with the semicolon behind it. -/
def Directive.text (directive : Directive) : String :=
  directive.sources.foldl (fun written source => written ++ " " ++ source) directive.name ++ ";"

def policyWords (text : List Char) : List (List Char) :=
  (text.splitOn ' ').filter fun word => !word.isEmpty

/-- The directive that consists of these words, if there are any. -/
def Directive.ofWords? : List (List Char) → Option Directive
  | [] => none
  | name :: sources => some ⟨String.ofList name, sources.map String.ofList⟩

def directivesOf (text : List Char) : List Directive :=
  (text.splitOn ';').filterMap fun part => Directive.ofWords? (policyWords part)

/-- The directives of a policy's text. They stand between semicolons, and their words
between blanks. -/
def directivesIn (text : String) : List Directive :=
  directivesOf text.toList

/-- A text that is read as one word. -/
structure IsPolicyWord (word : List Char) : Prop where
  nonempty : word ≠ []
  noBlank : ' ' ∉ word
  noSemicolon : ';' ∉ word

instance (word : List Char) : Decidable (IsPolicyWord word) :=
  decidable_of_iff (word ≠ [] ∧ ' ' ∉ word ∧ ';' ∉ word)
    ⟨fun ⟨nonempty, noBlank, noSemicolon⟩ => ⟨nonempty, noBlank, noSemicolon⟩,
      fun isWord => ⟨isWord.nonempty, isWord.noBlank, isWord.noSemicolon⟩⟩

/-! ### Words -/

theorem policyWords_append (front behind : List Char) :
    policyWords (front ++ ' ' :: behind) = policyWords front ++ policyWords behind := by
  rw [policyWords, List.splitOn_append_cons_self, List.filter_append, ← policyWords, ← policyWords]

theorem policyWords_blank (text : List Char) : policyWords (' ' :: text) = policyWords text :=
  policyWords_append [] text

theorem policyWords_word {word : List Char} (isWord : IsPolicyWord word) :
    policyWords word = [word] := by
  rw [policyWords, List.splitOn_eq_singleton isWord.noBlank]
  simp [isWord.nonempty]

/-! ### Directives -/

theorem directivesOf_append (front behind : List Char) :
    directivesOf (front ++ ';' :: behind) = directivesOf front ++ directivesOf behind := by
  rw [directivesOf, List.splitOn_append_cons_self, List.filterMap_append, ← directivesOf,
    ← directivesOf]

/-- A blank in front of a directive is passed over. -/
theorem directivesOf_blank (text : List Char) : directivesOf (' ' :: text) = directivesOf text := by
  rw [directivesOf, directivesOf, List.splitOn_cons_eq_if_modifyHead, if_neg (by decide)]
  cases text.splitOn ';' with
  | nil => rfl
  | cons first others =>
      rw [List.modifyHead_cons, List.filterMap_cons, List.filterMap_cons, policyWords_blank]

namespace Directive

/-- Everything that a directive is written with is read as a word. -/
def IsReadable (directive : Directive) : Prop :=
  ∀ word ∈ directive.name :: directive.sources, IsPolicyWord word.toList

instance (directive : Directive) : Decidable directive.IsReadable :=
  inferInstanceAs (Decidable (∀ word ∈ directive.name :: directive.sources, IsPolicyWord word.toList))

/-- A directive's text without the semicolon behind it. -/
def body (directive : Directive) : List Char :=
  directive.name.toList ++ directive.sources.flatMap fun source => ' ' :: source.toList

theorem toList_foldl_sources (sources : List String) (written : String) :
    (sources.foldl (fun written source => written ++ " " ++ source) written).toList =
      written.toList ++ sources.flatMap fun source => ' ' :: source.toList := by
  induction sources generalizing written with
  | nil => simp
  | cons source others inductionHypothesis =>
      rw [List.foldl_cons, inductionHypothesis]
      simp

theorem toList_text (directive : Directive) : directive.text.toList = directive.body ++ [';'] := by
  rw [text, String.toList_append, toList_foldl_sources, body]
  rfl

theorem policyWords_sources
    {sources : List String}
    (areWords : ∀ source ∈ sources, IsPolicyWord source.toList)
    (front : List Char) :
    policyWords (front ++ sources.flatMap fun source => ' ' :: source.toList) =
      policyWords front ++ sources.map String.toList := by
  induction sources generalizing front with
  | nil => simp
  | cons source others inductionHypothesis =>
      rw [List.forall_mem_cons] at areWords
      rw [List.flatMap_cons, List.cons_append, policyWords_append,
        inductionHypothesis areWords.2 source.toList, policyWords_word areWords.1]
      rfl

variable {directive : Directive} (readable : directive.IsReadable)

include readable

theorem policyWords_body :
    policyWords directive.body = directive.name.toList :: directive.sources.map String.toList := by
  rw [IsReadable, List.forall_mem_cons] at readable
  rw [body, policyWords_sources readable.2, policyWords_word readable.1]
  rfl

theorem semicolon_not_mem_body : ';' ∉ directive.body := by
  rw [IsReadable, List.forall_mem_cons] at readable
  rw [body, List.mem_append, List.mem_flatMap]
  rintro (inName | ⟨source, member, inSource⟩)
  · exact readable.1.noSemicolon inName
  · rcases List.mem_cons.mp inSource with isBlank | inSource
    · exact absurd isBlank (by decide)
    · exact (readable.2 source member).noSemicolon inSource

theorem directivesOf_body : directivesOf directive.body = [directive] := by
  rw [directivesOf, List.splitOn_eq_singleton (semicolon_not_mem_body readable),
    List.filterMap_cons, policyWords_body readable]
  simp [ofWords?, Function.comp_def]

end Directive

/-- What directives are written as is read as the same directives. -/
theorem directivesIn_intercalate
    {directives : List Directive}
    (readable : ∀ directive ∈ directives, directive.IsReadable) :
    directivesIn (" ".intercalate (directives.map Directive.text)) = directives := by
  have blank : " ".toList = [' '] := rfl
  rw [directivesIn, String.toList_intercalate, List.map_map, blank]
  induction directives with
  | nil => rfl
  | cons first others inductionHypothesis =>
      rw [List.forall_mem_cons] at readable
      have later := inductionHypothesis readable.2
      cases others with
      | nil =>
          rw [List.map_singleton, List.intercalate_singleton, Function.comp_apply,
            Directive.toList_text, directivesOf_append, Directive.directivesOf_body readable.1]
          rfl
      | cons second others =>
          rw [List.map_cons, List.map_cons, List.intercalate_cons_cons, ← List.map_cons,
            Function.comp_apply, Directive.toList_text, List.append_assoc, List.append_assoc,
            List.singleton_append, directivesOf_append, Directive.directivesOf_body readable.1,
            List.singleton_append, List.singleton_append, directivesOf_blank, later]

/-! ### The directives of a page -/

/-- The sources that images may come from. -/
def imageSources (root : AssetRoot) : List String :=
  if root.isPlainHttp then ["'self'", "http:", "https:", "data:"]
  else ["'self'", "https:", "data:"]

/-- The directives of a page whose illustrations are under `root`. -/
def policy (root : AssetRoot) : List Directive :=
  [ ⟨"default-src", ["'self'"]⟩,
    ⟨"img-src", imageSources root⟩,
    ⟨"style-src", ["'self'", "'unsafe-inline'"]⟩,
    ⟨"script-src", ["'self'", "'unsafe-inline'"]⟩,
    ⟨"connect-src", ["'none'"]⟩,
    ⟨"font-src", ["'self'", "data:"]⟩ ]

/-- The text of a page's policy, widened or not, is that of these directives. -/
theorem policyText_eq_intercalate (root : AssetRoot) :
    policyText root = " ".intercalate ((policy root).map Directive.text) := by
  rw [policyText, policy, imageSources]
  cases root.isPlainHttp with
  | false => decide +kernel
  | true => decide +kernel

theorem policy_readable (root : AssetRoot) : ∀ directive ∈ policy root, directive.IsReadable := by
  rw [policy, imageSources]
  cases root.isPlainHttp with
  | false => decide
  | true => decide

theorem directivesIn_policyText (root : AssetRoot) :
    directivesIn (policyText root) = policy root := by
  rw [policyText_eq_intercalate, directivesIn_intercalate (policy_readable root)]

end ReportIndex.Page

namespace ReportIndex

/-! ## Plain origins -/

/-- An address at an unencrypted origin, in whatever case its scheme is written. -/
def IsAtPlainOrigin (address : String) : Prop :=
  "http://".toList <+: (Text.lowerAscii address).toList

theorem toLower_eq_slash_iff (character : Char) : character.toLower = '/' ↔ character = '/' := by
  rcases Text.toLower_cases character with same | ⟨low, high, lowered⟩
  · rw [same]
  · have slash : '/'.toNat = 47 := rfl
    rw [← Char.toNat_inj, ← Char.toNat_inj, slash]
    omega

namespace AssetRoot

theorem isPlainHttp_iff (root : AssetRoot) :
    root.isPlainHttp = true ↔ plainHttpScheme <+: root.base.toList.map Char.toLower := by
  rw [isPlainHttp, Option.any_eq_true]
  constructor
  · rintro ⟨⟨front, behind⟩, cut, lowered⟩
    obtain ⟨whole, _⟩ := (Text.splitAtByte?_eq_some_iff _ _ front behind).mp cut
    rw [← whole, List.map_append, eq_of_beq lowered]
    exact List.prefix_append _ _
  · rintro ⟨more, whole⟩
    obtain ⟨front, behind, split, lowered, _⟩ := List.map_eq_append_iff.mp whole.symm
    -- What reads as the scheme in lower case takes as many bytes as the scheme.
    have length : Text.utf8Length front = 7 := by
      rw [← Text.utf8Length_map_toLower, lowered]
      decide
    exact ⟨(front, behind), (Text.splitAtByte?_eq_some_iff _ _ front behind).mpr
      ⟨split.symm, length⟩, beq_of_eq lowered⟩

/-- Seven bytes that read as the scheme are seven characters, so that the test may as well
be made on these. -/
theorem isPlainHttp_eq (root : AssetRoot) :
    root.isPlainHttp =
      ((root.base.toList.take plainHttpScheme.length).map Char.toLower == plainHttpScheme) := by
  rw [Bool.eq_iff_iff, isPlainHttp_iff, beq_iff_eq, List.map_take, List.prefix_iff_eq_take, eq_comm]

/-- What stands behind a root does not complete a scheme, if the root does not end in a
slash and the name behind it holds none. -/
theorem plainHttpScheme_prefix_iff
    {base name : List Char}
    (noSlashBefore : base.getLast? ≠ some '/')
    (noSlashBehind : '/' ∉ name) :
    plainHttpScheme <+: base ++ '/' :: name ↔ plainHttpScheme <+: base := by
  constructor
  · intro begins
    rcases List.prefix_or_prefix_of_prefix begins (List.prefix_append base ('/' :: name)) with
      inBase | ⟨more, whole⟩
    · exact inBase
    · rw [← whole, List.prefix_append_right_inj] at begins
      cases more with
      | nil => rw [← whole, List.append_nil]
      | cons first others =>
          obtain ⟨rfl, inName⟩ := List.cons_prefix_cons.mp begins
          -- The last slash of the scheme is the one behind the root, or stands in the name.
          rcases List.eq_nil_or_concat others with rfl | ⟨front, last, rfl⟩
          · have withoutSlash : base = ['h', 't', 't', 'p', ':', '/'] :=
              List.append_inj_left' whole rfl
            rw [withoutSlash] at noSlashBefore
            exact absurd rfl noSlashBefore
          · have lasts := congrArg List.getLast? whole
            have slash : last = '/' := by simpa [plainHttpScheme, List.getLast?_cons] using lasts
            exact absurd (inName.subset (by simp [slash])) noSlashBehind
  · exact fun begins => begins.trans (List.prefix_append base _)

/-- The test on the root decides where the illustrations are. -/
theorem isAtPlainOrigin_address_iff (text : String) (shade : Shade) (index : Nat) :
    IsAtPlainOrigin ((ofText text).address shade index) ↔ (ofText text).isPlainHttp = true := by
  have noSlashBefore : ((ofText text).base.toList.map Char.toLower).getLast? ≠ some '/' := by
    rw [List.getLast?_map, Ne, Option.map_eq_some_iff]
    rintro ⟨last, found, lowered⟩
    rw [toLower_eq_slash_iff] at lowered
    exact getLast?_base_ofText text (lowered ▸ found)
  have noSlashBehind : '/' ∉ (shade.fileName index).toList.map Char.toLower := by
    rw [List.mem_map]
    rintro ⟨character, member, lowered⟩
    rw [toLower_eq_slash_iff] at lowered
    exact shade.slash_not_mem_fileName index (lowered ▸ member)
  have lowered : (Text.lowerAscii ((ofText text).address shade index)).toList =
      (ofText text).base.toList.map Char.toLower
        ++ '/' :: (shade.fileName index).toList.map Char.toLower := by
    have slash : "/".toList.map Char.toLower = ['/'] := rfl
    rw [Text.lowerAscii, address_eq, String.toList_ofList, String.toList_append,
      String.toList_append, List.map_append, List.map_append, slash, List.append_assoc,
      List.singleton_append]
  rw [isPlainHttp_iff, ← plainHttpScheme_prefix_iff noSlashBefore noSlashBehind, ← lowered]
  rfl

end AssetRoot

namespace Page

/-! ## What a policy allows -/

theorem policyText_of_not_plainHttp
    {root : AssetRoot}
    (notPlain : root.isPlainHttp = false) :
    policyText root = usualPolicyText := by
  rw [policyText, notPlain]
  rfl

/-- Policies differ in what they allow for images, and in nothing else. -/
theorem exists_policy_eq :
    ∃ before behind,
      (∀ root, policy root = before ++ ⟨"img-src", imageSources root⟩ :: behind)
        ∧ ∀ directive ∈ before ++ behind, directive.name ≠ "img-src" :=
  ⟨[_], [_, _, _, _], fun _ => rfl, by decide⟩

section

variable (root : AssetRoot)

theorem http_mem_imageSources_iff : "http:" ∈ imageSources root ↔ root.isPlainHttp = true := by
  rw [imageSources]
  cases root.isPlainHttp with
  | false => decide
  | true => decide

theorem filter_imageSources :
    (imageSources root).filter (· != "http:") = ["'self'", "https:", "data:"] := by
  rw [imageSources]
  cases root.isPlainHttp with
  | false => decide
  | true => decide

theorem imageSources_superset : ["'self'", "https:", "data:"] ⊆ imageSources root := by
  rw [← filter_imageSources root]
  exact List.filter_subset_self _

end

/-- **The policy fits the images of the page.** It allows images from plain origins
exactly if the illustrations are at one, light and dark alike. Whether it does or not, it
allows what the usual policy allows for images; all other directives are those of the
usual policy, in the same order. -/
theorem policy_matches_images (text : String) (index : Nat) :
    ∃ before sources usualSources behind,
      directivesIn (policyText (.ofText text)) = before ++ ⟨"img-src", sources⟩ :: behind
        ∧ directivesIn usualPolicyText = before ++ ⟨"img-src", usualSources⟩ :: behind
        ∧ (∀ directive ∈ before ++ behind, directive.name ≠ "img-src")
        ∧ sources.filter (· != "http:") = usualSources
        ∧ ["'self'", "https:", "data:"] ⊆ sources
        ∧ ("http:" ∈ sources ↔ IsAtPlainOrigin ((AssetRoot.ofText text).light index))
        ∧ ("http:" ∈ sources ↔ IsAtPlainOrigin ((AssetRoot.ofText text).dark index)) := by
  obtain ⟨before, behind, split, others⟩ := exists_policy_eq
  have notPlain : (⟨""⟩ : AssetRoot).isPlainHttp = false := by decide
  have light := AssetRoot.isAtPlainOrigin_address_iff text .light index
  have dark := AssetRoot.isAtPlainOrigin_address_iff text .dark index
  refine ⟨before, imageSources (.ofText text), imageSources ⟨""⟩, behind, ?_, ?_, others, ?_,
    imageSources_superset _, ?_, ?_⟩
  · rw [directivesIn_policyText, split]
  · rw [← policyText_of_not_plainHttp notPlain, directivesIn_policyText, split]
  · rw [filter_imageSources, imageSources, notPlain]
    rfl
  · rw [http_mem_imageSources_iff, ← light]
    rfl
  · rw [http_mem_imageSources_iff, ← dark]
    rfl

/-- A scheme alone is no origin: its slashes are taken for the end of the root. -/
example : "http:" ∉ imageSources (.ofText " HTTP:// ") ∧ "http:" ∈ imageSources (.ofText "Http://é/") := by
  decide

end Page

end ReportIndex
