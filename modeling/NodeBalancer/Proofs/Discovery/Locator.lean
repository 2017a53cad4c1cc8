import NodeBalancer.Discovery.Locator.Parser
import NodeBalancer.Proofs.Address.RoundTrip
import NodeBalancer.Proofs.Text.FormDecoding

/-!
# What the locator of a node list says

The locator of a node list is made for every base node and every filter, and its text says what it
was made from: read as a locator it has the scheme, the address and the port of the base node, and
its query holds the parameters of the filter and no others.  So two base nodes or two filters never
share a text, whatever characters there are in the names of racks and datacenters.

* `HostText`, `PortText`: the ways in which an address and a port are written.
* `parse?_written`: a text with such a host is read.
* `localNodes?_eq`: the locator of a node list is always made.
* `localNodes?_determined`: its text determines the base node and the filter.
-/

namespace NodeBalancer

namespace Filter

theorem isEmpty_pairs (f : Filter) : f.pairs.isEmpty = f.isEmpty := by
  obtain ⟨rack, datacenter⟩ := f
  cases rack <;> cases datacenter <;> rfl

theorem lookup_rack (f : Filter) : f.pairs.lookup "rack" = f.rack := by
  obtain ⟨rack, datacenter⟩ := f
  cases rack <;> cases datacenter <;> rfl

theorem lookup_datacenter (f : Filter) : f.pairs.lookup "dc" = f.datacenter := by
  obtain ⟨rack, datacenter⟩ := f
  cases rack <;> cases datacenter <;> rfl

/-- A missing name is not the same as an empty one. -/
theorem eq_of_pairs_eq {f f' : Filter} (h : f.pairs = f'.pairs) : f = f' := by
  have hrack : f.rack = f'.rack := by
    rw [← f.lookup_rack, h, f'.lookup_rack]
  have hdatacenter : f.datacenter = f'.datacenter := by
    rw [← f.lookup_datacenter, h, f'.lookup_datacenter]
  cases f
  cases f'
  cases hrack
  cases hdatacenter
  rfl

end Filter

namespace Locator

/-! ## Characters that stay what they are -/

theorem utf8EncodeChar_of_lt {c : Char} (h : c.toNat < 128) :
    String.utf8EncodeChar c = [UInt8.ofNat c.toNat] := by
  have hle : c.val ≤ 127 := UInt32.le_iff_toNat_le.mpr (Nat.le_of_lt_succ h)
  rw [String.utf8EncodeChar_eq_singleton (Char.utf8Size_eq_one_iff.mpr hle)]
  rfl

/-- A visible character that is not reserved. -/
def IsPlain (reserved : List Char) (c : Char) : Prop :=
  0x20 < c.toNat ∧ c.toNat < 0x7f ∧ c ∉ reserved

theorem percentEncode_eq_self {reserved cs : List Char} (h : ∀ c ∈ cs, IsPlain reserved c) :
    percentEncode reserved cs = cs := by
  induction cs with
  | nil => rfl
  | cons c cs ih =>
    obtain ⟨hlow, hhigh, hc⟩ := h c List.mem_cons_self
    have hbyte : (UInt8.ofNat c.toNat).toNat = c.toNat :=
      UInt8.toNat_ofNat_of_lt' (by simp only [UInt8.size]; omega)
    have hone : percentEncode reserved [c] = [c] := by
      simp [percentEncode, utf8EncodeChar_of_lt (by omega : c.toNat < 128), hbyte, hlow, hhigh, hc]
    have hrest := ih fun d hd => h d (List.mem_cons_of_mem _ hd)
    calc percentEncode reserved (c :: cs)
        = percentEncode reserved [c] ++ percentEncode reserved cs := by
          simp [percentEncode]
      _ = c :: cs := by rw [hone, hrest, List.singleton_append]

theorem isPlain_of_mem_formQuery {pairs : List (String × String)} :
    ∀ c ∈ Text.formQuery pairs, IsPlain queryReserved c := by
  intro c hc
  have hplain : ∀ n < 128, (Text.isFormCharacter (Char.ofNat n) = true ∨ Char.ofNat n = '=' ∨
      Char.ofNat n = '&') → 0x20 < n ∧ n < 0x7f ∧ Char.ofNat n ∉ queryReserved := by
    decide +kernel
  have hcharacter := Text.isFormCharacter_of_mem_formQuery hc
  have hlt : c.toNat < 128 := by
    rcases hcharacter with hform | rfl | rfl
    · exact Text.toNat_lt_of_isFormCharacter hform
    · decide
    · decide
  have h := hplain c.toNat hlt
  rw [Char.ofNat_toNat] at h
  exact h hcharacter

/-! ## Hosts and ports -/

/-- How an address may stand in front of a port. -/
inductive HostText : List Char → Address → Prop
  | short {cs : List Char} {a : V4} (h : V4.parse? cs = some a) : HostText cs (.v4 a)
  | long {cs : List Char} {a : V6} (h : V6.parse? cs = some a) :
      HostText ('[' :: (cs ++ [']'])) (.v6 a)

theorem hostText_hostDigits (a : Address) : HostText a.hostDigits a := by
  cases a with
  | v4 a => exact .short a.parse?_digits
  | v6 a => exact .long a.parse?_digits

theorem hostText_locatorDigits (a : Address) : HostText a.locatorDigits a := by
  cases a with
  | v4 a => exact .short a.parse?_digits
  | v6 a => exact .long a.parse?_compressed

/-- What may stand behind a host: nothing, or a colon and the port. -/
inductive PortText (scheme : Scheme) : List Char → UInt16 → Prop
  | absent : PortText scheme [] scheme.defaultPort
  | present (port : UInt16) : PortText scheme (':' :: Nat.toDigits 10 port.toNat) port

theorem port?_of_portText {scheme : Scheme} {behind : List Char} {port : UInt16}
    (h : PortText scheme behind port) : port? scheme behind = some port := by
  cases h with
  | absent => rfl
  | present port =>
    have hlt : port.toNat < 65536 := port.toNat_lt
    rw [port?, Text.natural?_toDigits (by decide) (by decide)]
    · simp [hlt]
    · exact Nat.toDigits_ne_nil

theorem not_mem_of_hostText {host : List Char} {a : Address} (h : HostText host a) {c : Char}
    (hpunctuation : c ∉ [':', '.', '[', ']']) (hdigit : Text.digitValue? 16 c = none) :
    c ∉ host := by
  simp only [List.mem_cons, List.not_mem_nil, or_false, not_or] at hpunctuation
  obtain ⟨hcolon, hdot, hleft, hright⟩ := hpunctuation
  cases h with
  | short h => exact V4.not_mem_of_parse? h hdot (Text.digitValue?_ten_of_sixteen hdigit)
  | long h =>
    have hcs := V6.not_mem_of_parse? hdot hdigit hcolon h
    simp [hcs, hleft, hright]

theorem not_mem_of_portText {scheme : Scheme} {behind : List Char} {port : UInt16}
    (h : PortText scheme behind port) {c : Char} (hcolon : c ≠ ':')
    (hdigit : Text.digitValue? 16 c = none) : c ∉ behind := by
  cases h with
  | absent => exact List.not_mem_nil
  | present port =>
    have hdigits := Text.not_mem_toDigits (by decide) (by decide)
      (Text.digitValue?_ten_of_sixteen hdigit) port.toNat
    simp [hdigits, hcolon]

/-- The short form of an address reaches up to the colon, if there is one. -/
theorem cut_portText {scheme : Scheme} {behind : List Char} {port : UInt16}
    (h : PortText scheme behind port) {cs : List Char} (hcs : ':' ∉ cs) :
    (cs ++ behind).takeWhile (· != ':') = cs ∧ (cs ++ behind).dropWhile (· != ':') = behind := by
  cases h with
  | absent =>
    rw [List.append_nil]
    exact ⟨Text.takeWhile_ne_self hcs, Text.dropWhile_ne_nil hcs⟩
  | present port => exact ⟨Text.takeWhile_ne_append hcs _, Text.dropWhile_ne_append hcs _⟩

theorem host?_of_hostText {host : List Char} {a : Address} (h : HostText host a) {scheme : Scheme}
    {behind : List Char} {port : UInt16} (hport : PortText scheme behind port) :
    host? (host ++ behind) = some (a, behind) := by
  cases h with
  | @short _ a h =>
    obtain ⟨htake, hdrop⟩ := cut_portText hport (V4.not_mem_of_parse? h (by decide) (by decide))
    -- No bracket is in front, so the text is not taken for the long form.
    have hbracket : ∀ rest, host ++ behind ≠ '[' :: rest := by
      intro rest he
      have hmem : '[' ∈ host ++ behind := he ▸ List.mem_cons_self
      rcases List.mem_append.mp hmem with hmem | hmem
      · exact V4.not_mem_of_parse? h (by decide) (by decide) hmem
      · exact not_mem_of_portText hport (by decide) (by decide) hmem
    rw [host?, htake, hdrop, h]
    · rfl
    · exact hbracket
  | @long cs a h =>
    have hbracket : ']' ∉ cs := V6.not_mem_of_parse? (by decide) (by decide) (by decide) h
    rw [List.cons_append, List.append_assoc, List.singleton_append, host?,
      Text.dropWhile_ne_append hbracket, Text.takeWhile_ne_append hbracket, h]
    rfl

/-! ## Whole texts -/

theorem scheme?_name (scheme : Scheme) (rest : List Char) :
    scheme? (scheme.name.toList ++ "://".toList ++ rest) = some (scheme, rest) := by
  cases scheme <;> rfl

/-- What stands behind a scheme and its slashes is cut at the first slash. -/
theorem cut_authority {cs : List Char} (h : ∀ c ∈ cs, endsAuthority c = false) (rest : List Char) :
    (cs ++ '/' :: rest).takeWhile (!endsAuthority ·) = cs ∧
      (cs ++ '/' :: rest).dropWhile (!endsAuthority ·) = '/' :: rest := by
  have hall : ∀ c ∈ cs, (!endsAuthority c) = true := fun c hc => by rw [h c hc]; rfl
  rw [List.takeWhile_append_of_pos hall, List.dropWhile_append_of_pos hall]
  simp [endsAuthority]

theorem endsAuthority_eq_false {host : List Char} {a : Address} (h : HostText host a)
    {scheme : Scheme} {behind : List Char} {port : UInt16} (hport : PortText scheme behind port) :
    ∀ c ∈ host ++ behind, endsAuthority c = false := by
  intro c hc
  rw [Bool.eq_false_iff]
  intro hends
  have hend : c = '/' ∨ c = '?' ∨ c = '#' := by
    simpa [endsAuthority, or_assoc] using hends
  rcases List.mem_append.mp hc with hc | hc <;> rcases hend with rfl | rfl | rfl
  case inl.inl | inl.inr.inl | inl.inr.inr =>
    exact not_mem_of_hostText h (by decide) (by decide) hc
  case inr.inl | inr.inr.inl | inr.inr.inr =>
    exact not_mem_of_portText hport (by decide) (by decide) hc

/-- A text that is written out with a host, perhaps a port, and a path. -/
theorem parse?_written {host : List Char} {a : Address} (h : HostText host a) {scheme : Scheme}
    {behind : List Char} {port : UInt16} (hport : PortText scheme behind port)
    (rest : List Char) :
    parse? (scheme.name.toList ++ "://".toList ++ (host ++ behind ++ '/' :: rest)) =
      some ⟨scheme, a, port,
        normalizePath (percentEncode pathReserved
          ((('/' :: rest).takeWhile (· != '#')).takeWhile (· != '?'))),
        queryOf? (('/' :: rest).takeWhile (· != '#'))⟩ := by
  obtain ⟨htake, hdrop⟩ := cut_authority (endsAuthority_eq_false h hport) rest
  rw [parse?, scheme?_name]
  simp only [htake, hdrop, host?_of_hostText h hport, port?_of_portText hport]

/-- A target without a number sign in it is cut at its question mark. -/
theorem cut_target {l : Locator} (hpath : '?' ∉ l.path ∧ '#' ∉ l.path)
    (hquery : ∀ cs ∈ l.query, ∀ c ∈ cs, IsPlain queryReserved c) :
    l.target.takeWhile (· != '#') = l.target ∧ l.target.takeWhile (· != '?') = l.path ∧
      queryOf? l.target = l.query := by
  obtain ⟨scheme, address, port, path, query⟩ := l
  obtain ⟨hquestion, hsign⟩ := hpath
  dsimp only at hquestion hsign hquery
  cases query with
  | none =>
    rw [target, List.append_nil]
    refine ⟨Text.takeWhile_ne_self hsign, Text.takeWhile_ne_self hquestion, ?_⟩
    simp only [queryOf?, Text.dropWhile_ne_nil hquestion]
  | some cs =>
    have hplain := hquery cs rfl
    have hfragment : '#' ∉ path ++ '?' :: cs := by
      simp only [List.mem_append, List.mem_cons, not_or]
      exact ⟨hsign, by decide, fun hc => (hplain _ hc).2.2 (by decide)⟩
    rw [target]
    refine ⟨Text.takeWhile_ne_self hfragment, Text.takeWhile_ne_append hquestion cs, ?_⟩
    simp only [queryOf?, Text.dropWhile_ne_append hquestion]
    rw [percentEncode_eq_self hplain]

/-- The locator of a node list is read back from a text in which its target is written as it is. -/
theorem parse?_target {host : List Char} {l : Locator} (h : HostText host l.address)
    {behind : List Char} (hport : PortText l.scheme behind l.port) (hpath : l.path = localNodesPath)
    (hquery : ∀ cs ∈ l.query, ∀ c ∈ cs, IsPlain queryReserved c) :
    parse? (l.scheme.name.toList ++ "://".toList ++ (host ++ behind ++ l.target)) = some l := by
  have hnormal : normalizePath (percentEncode pathReserved localNodesPath) = localNodesPath := by
    decide +kernel
  have hplain : '?' ∉ l.path ∧ '#' ∉ l.path := by
    rw [hpath]
    decide +kernel
  obtain ⟨hwhole, hcut, hcutQuery⟩ := cut_target hplain hquery
  obtain ⟨rest, hrest⟩ : ∃ rest, l.target = '/' :: rest := by
    rw [target, hpath]
    exact ⟨_, rfl⟩
  have hread := parse?_written h hport rest
  rw [← hrest, hwhole, hcut, hcutQuery, hpath, hnormal, ← hpath] at hread
  exact hread

/-! ## The node list of a base node -/

theorem toList_locator (base : Endpoint) (path : String) :
    (base.locator path none).toList =
      base.scheme.name.toList ++ "://".toList ++
        (base.address.hostDigits ++ ':' :: Nat.toDigits 10 base.port.toNat ++ path.toList) := by
  simp [Endpoint.locator, Endpoint.text, Endpoint.socketText]

/-- The locator of a node list is always made. -/
theorem localNodes?_eq (base : Endpoint) (f : Filter) :
    localNodes? base f = some (ofQuery base f) := by
  have hread : parse? (base.locator (String.ofList localNodesPath) none).toList =
      some ⟨base.scheme, base.address, base.port, localNodesPath, none⟩ := by
    have hwritten := parse?_target
      (l := ⟨base.scheme, base.address, base.port, localNodesPath, none⟩)
      (hostText_hostDigits base.address) (.present base.port) rfl (fun _ h => nomatch h)
    rw [toList_locator, String.toList_ofList]
    rw [target, List.append_nil] at hwritten
    exact hwritten
  rw [localNodes?, hread, Filter.isEmpty_pairs, ofQuery]
  cases f.isEmpty <;> rfl

theorem portText_authority (l : Locator) :
    PortText l.scheme
      (if l.port = l.scheme.defaultPort then [] else ':' :: Nat.toDigits 10 l.port.toNat)
      l.port := by
  split
  · rename_i h
    rw [h]
    exact .absent
  · exact .present l.port

/-- The locator of a node list is read back from its own text. -/
theorem parse?_ofQuery (base : Endpoint) (f : Filter) :
    parse? (ofQuery base f).text.toList = some (ofQuery base f) := by
  have hplain : ∀ cs ∈ (ofQuery base f).query, ∀ c ∈ cs, IsPlain queryReserved c := by
    intro cs hcs
    cases h : f.isEmpty with
    | true => simp [ofQuery, h] at hcs
    | false =>
      have he : cs = Text.formQuery f.pairs := by simpa [ofQuery, h, eq_comm] using hcs
      rw [he]
      exact isPlain_of_mem_formQuery
  have hread := parse?_target (hostText_locatorDigits (ofQuery base f).address)
    (portText_authority (ofQuery base f)) rfl hplain
  rw [text, String.toList_ofList, chars, authority]
  simpa only [List.append_assoc] using hread

theorem query_eq_none_iff (base : Endpoint) (f : Filter) :
    (ofQuery base f).query = none ↔ f.isEmpty = true := by
  rw [ofQuery]
  split <;> simp_all

theorem formParameters?_query (base : Endpoint) (f : Filter) :
    Text.formParameters? ((ofQuery base f).query.getD []) = some f.pairs := by
  rw [ofQuery]
  split
  case isTrue h =>
    have hpairs : f.pairs = [] := List.isEmpty_iff.mp ((Filter.isEmpty_pairs f).trans h)
    rw [hpairs]
    rfl
  case isFalse => exact Text.formParameters?_formQuery f.pairs

theorem question_mem_target {l : Locator} (h : '?' ∉ l.path) :
    '?' ∈ l.target ↔ l.query ≠ none := by
  rw [target, List.mem_append]
  cases l.query with
  | none => simpa using h
  | some query => simp

/-- A question mark stands in front of a query and nowhere else. -/
theorem question_mem_text (base : Endpoint) (f : Filter) :
    '?' ∈ (ofQuery base f).text.toList ↔ f.isEmpty = false := by
  have hscheme : '?' ∉ base.scheme.name.toList ++ "://".toList := by
    cases base.scheme <;> decide
  have hhost : '?' ∉ base.address.locatorDigits :=
    not_mem_of_hostText (hostText_locatorDigits base.address) (by decide) (by decide)
  have hport := not_mem_of_portText (portText_authority (ofQuery base f))
    (by decide : '?' ≠ ':') (by decide)
  have hbefore : '?' ∉ base.scheme.name.toList ++ "://".toList ++ (ofQuery base f).authority :=
    List.not_mem_append hscheme (List.not_mem_append hhost hport)
  have hpath : '?' ∉ (ofQuery base f).path := by
    change '?' ∉ localNodesPath
    decide +kernel
  calc '?' ∈ (ofQuery base f).text.toList
      ↔ '?' ∈ (ofQuery base f).target := by
        rw [text, String.toList_ofList, chars, List.mem_append]
        exact or_iff_right hbefore
    _ ↔ (ofQuery base f).query ≠ none := question_mem_target hpath
    _ ↔ f.isEmpty = false := by
        rw [Ne, query_eq_none_iff, Bool.not_eq_true]

/-- The locator of a node list loses nothing and adds nothing: its text is read back as the locator,
and no other base node and filter have a locator of this text. -/
theorem localNodes?_determined (base : Endpoint) (f : Filter) :
    ∃ l, localNodes? base f = some l ∧ parse? l.text.toList = some l ∧
      l.scheme = base.scheme ∧ l.address = base.address ∧ l.port = base.port ∧
      l.path = localNodesPath ∧ ('?' ∈ l.text.toList ↔ f.isEmpty = false) ∧
      (l.query = none ↔ f.isEmpty = true) ∧
      Text.formParameters? (l.query.getD []) = some f.pairs ∧
      ∀ base' f', (localNodes? base' f').map text = some l.text ↔ base' = base ∧ f' = f := by
  refine ⟨ofQuery base f, localNodes?_eq base f, parse?_ofQuery base f, rfl, rfl, rfl, rfl,
    question_mem_text base f, query_eq_none_iff base f, formParameters?_query base f, ?_⟩
  intro base' f'
  rw [localNodes?_eq, Option.map_some, Option.some_inj]
  constructor
  · intro htext
    have hlocator : some (ofQuery base' f') = some (ofQuery base f) := by
      rw [← parse?_ofQuery, ← parse?_ofQuery, htext]
    have hread := Option.some_inj.mp hlocator
    have hbase : base' = base := by
      cases base
      cases base'
      simpa [ofQuery] using And.intro (congrArg scheme hread)
        (And.intro (congrArg address hread) (congrArg port hread))
    have hpairs : some f'.pairs = some f.pairs := by
      rw [← formParameters?_query base' f', ← formParameters?_query base f, hread]
    exact ⟨hbase, Filter.eq_of_pairs_eq (Option.some_inj.mp hpairs)⟩
  · rintro ⟨rfl, rfl⟩
    rfl

end Locator

end NodeBalancer
