import Manipulate.Websocket.Subscribe
import Mathlib.Data.List.Basic

/-!
# Reading back the query of a dialed URL

`connect` dials `wsBase url ++ "/wsapi?token=" ++ password ++ "&namespace=" ++ namespace`, and
`Subscribe` the same with `/events`, with `"&mode=all"` after it when the flag is set
(`connectURL`, `Subscribe.subscribeURL`). Neither escapes the token or the namespace. The reading
side is the server's, which is not in the repository: `decodeQuery` cuts the fragment off at
`#`, takes what follows the first `?`, splits it at `&` and each part at its first `=`, and
percent-decodes both halves (`+` is a blank; `%` not followed by two hex digits stays as it is).

* `dialed_query_roundtrip`: for a base URL with no `?` or `#` and a token and a namespace that
  hold none of `&`, `#`, `%`, `+` (`plainChar`), both URLs read back as `token`, `namespace` and
  `mode=all` exactly when the flag is set (`queryParams`): the query is the pairs joined by `&`
  (`dialedQuery_eq`), `splitOn` undoes the join (`List.splitOn_intercalate`), and each pair reads
  back (`decodePair_joinPair`).
* `namespace_injects_mode`: a namespace `a&mode=all` reads back as the namespace `a` and the
  parameter `mode=all`, on a manipulator whose `receiveAll` is unset.
-/

namespace Manipulate.Websocket

/-! ## The reading side -/

/-- The value of a hex digit. -/
def hexValue (c : Char) : Option Nat :=
  if '0' ≤ c ∧ c ≤ '9' then some (c.toNat - '0'.toNat)
  else if 'a' ≤ c ∧ c ≤ 'f' then some (c.toNat - 'a'.toNat + 10)
  else if 'A' ≤ c ∧ c ≤ 'F' then some (c.toNat - 'A'.toNat + 10)
  else none

/-- Query unescaping: `+` is a blank, and `%` with two hex digits the character of that code
(bytes are not joined into UTF-8 sequences). -/
def percentDecode : List Char → List Char
  | [] => []
  | '+' :: cs => ' ' :: percentDecode cs
  | '%' :: h :: l :: cs =>
    match hexValue h, hexValue l with
    | some a, some b => Char.ofNat (16 * a + b) :: percentDecode cs
    | _, _ => '%' :: percentDecode (h :: l :: cs)
  | c :: cs => c :: percentDecode cs

/-- The query of a URL: before the fragment, after the first `?`. -/
def queryPart (url : List Char) : List Char :=
  ((url.takeWhile (· != '#')).dropWhile (· != '?')).drop 1

/-- A `key=value` part split at its first `=`. -/
def splitPair (kv : List Char) : List Char × List Char :=
  (kv.takeWhile (· != '='), (kv.dropWhile (· != '=')).drop 1)

/-- A `key=value` part, both halves unescaped. -/
def decodePair (kv : List Char) : String × String :=
  (⟨percentDecode (splitPair kv).1⟩, ⟨percentDecode (splitPair kv).2⟩)

/-- The parameters of a URL's query, in order. -/
def decodeQuery (url : String) : List (String × String) :=
  ((queryPart url.toList).splitOn '&').map decodePair

/-- The parameters the dial means to send. -/
def queryParams (token ns : String) (all : Bool) : List (String × String) :=
  [("token", token), ("namespace", ns)] ++ if all then [("mode", "all")] else []

/-- A character that a query carries as it is: no separator of the query, its end or an
escape. -/
def plainChar (c : Char) : Bool := c != '&' && c != '#' && c != '%' && c != '+'

/-- A parameter written as `key=value`. -/
def joinPair (kv : String × String) : List Char := kv.1.toList ++ '=' :: kv.2.toList

/-! ## Each step of the reading undoes one of the writing -/

theorem mem_replaceFirst {c : Char} {l old new : List Char} (h : c ∈ replaceFirst l old new) :
    c ∈ l ∨ c ∈ new := by
  induction l with
  | nil =>
    simp only [replaceFirst] at h
    split at h
    · exact .inr h
    · cases h
  | cons x xs ih =>
    simp only [replaceFirst] at h
    split at h
    · rcases List.mem_append.1 h with h | h
      · exact .inr h
      · exact .inl (List.mem_of_mem_drop h)
    · rcases List.mem_cons.1 h with rfl | h
      · exact .inl (List.mem_cons_self _ _)
      · exact (ih h).imp_left (List.mem_cons_of_mem _)

/-- `wsBase` brings in only the characters of `ws://` and `wss://`. -/
theorem not_mem_wsBase {c : Char} {url : String} (h : c ∉ url.toList) (h₁ : c ∉ "ws://".toList)
    (h₂ : c ∉ "wss://".toList) : c ∉ (wsBase url).toList := fun hc =>
  (mem_replaceFirst hc).elim (fun hc => (mem_replaceFirst hc).elim h h₁) h₂

theorem percentDecode_plain {l : List Char} (h : ∀ c ∈ l, plainChar c) : percentDecode l = l := by
  induction l with
  | nil => rfl
  | cons c cs ih =>
    have hc := h c (List.mem_cons_self _ _)
    simp only [plainChar, Bool.and_eq_true, bne_iff_ne, ne_eq] at hc
    rw [percentDecode.eq_4 c cs hc.2 fun _ _ _ h _ => hc.1.2 h,
      ih fun x hx => h x (List.mem_cons_of_mem _ hx)]

theorem bne_of_not_mem {c : Char} {l : List Char} (h : c ∉ l) : ∀ a ∈ l, (a != c) = true :=
  fun a ha => by simp only [bne_iff_ne, ne_eq]; rintro rfl; exact h ha

theorem queryPart_append {base tail : List Char} (hb : '?' ∉ base ∧ '#' ∉ base)
    (ht : '#' ∉ tail) : queryPart (base ++ '?' :: tail) = tail := by
  have hall : '#' ∉ base ++ '?' :: tail := by simp [hb.2, ht]
  rw [queryPart, List.takeWhile_eq_self_iff.2 (bne_of_not_mem hall),
    List.dropWhile_append_of_pos (bne_of_not_mem hb.1), List.dropWhile_cons_of_neg (by simp),
    List.drop_one, List.tail_cons]

theorem decodePair_joinPair {kv : String × String} (hk : ∀ c ∈ kv.1.toList, plainChar c ∧ c ≠ '=')
    (hv : ∀ c ∈ kv.2.toList, plainChar c) : decodePair (joinPair kv) = kv := by
  have hk' : ∀ a ∈ kv.1.toList, (a != '=') = true :=
    bne_of_not_mem fun h => (hk _ h).2 rfl
  rw [decodePair, splitPair, joinPair, List.takeWhile_append_of_pos hk',
    List.dropWhile_append_of_pos hk', List.takeWhile_cons_of_neg (by simp),
    List.dropWhile_cons_of_neg (by simp), List.append_nil, List.drop_one, List.tail_cons,
    percentDecode_plain fun c h => (hk c h).1, percentDecode_plain hv]
  rfl

/-- The query the dial writes is its parameters joined by `&`. -/
theorem dialedQuery_eq (token ns : String) (all : Bool) :
    ("token=" ++ token ++ "&namespace=" ++ ns ++ if all then "&mode=all" else "").toList =
      ['&'].intercalate ((queryParams token ns all).map joinPair) := by
  cases all <;> simp [queryParams, joinPair, String.data_append, List.intercalate]

section Dialed

variable {token ns : String} (all : Bool) (htok : ∀ c ∈ token.toList, plainChar c)
  (hns : ∀ c ∈ ns.toList, plainChar c)
include htok hns

theorem plain_queryParams :
    ∀ kv ∈ queryParams token ns all,
      (∀ c ∈ kv.1.toList, plainChar c ∧ c ≠ '=') ∧ ∀ c ∈ kv.2.toList, plainChar c := by
  intro kv hkv
  have hkv : kv = ("token", token) ∨ kv = ("namespace", ns) ∨ all ∧ kv = ("mode", "all") := by
    cases all <;> simpa [queryParams] using hkv
  rcases hkv with rfl | rfl | ⟨-, rfl⟩
  · exact ⟨by dsimp only; decide, htok⟩
  · exact ⟨by dsimp only; decide, hns⟩
  · decide

theorem decodeQuery_dialed {base : List Char} (hb : '?' ∉ base ∧ '#' ∉ base) :
    decodeQuery ⟨base ++ '?' ::
        ("token=" ++ token ++ "&namespace=" ++ ns ++ if all then "&mode=all" else "").toList⟩ =
      queryParams token ns all := by
  have ht : '#' ∉ ("token=" ++ token ++ "&namespace=" ++ ns ++
      if all then "&mode=all" else "").toList := by
    have h1 : '#' ∉ token.toList := fun h => by simpa [plainChar] using htok _ h
    have h2 : '#' ∉ ns.toList := fun h => by simpa [plainChar] using hns _ h
    simp only [String.toList] at h1 h2
    cases all <;> simp [String.data_append, h1, h2]
  have hamp : ∀ p ∈ (queryParams token ns all).map joinPair, '&' ∉ p := by
    simp only [List.mem_map]
    rintro _ ⟨kv, hkv, rfl⟩ h
    have := plain_queryParams all htok hns kv hkv
    simp only [joinPair, List.mem_append, List.mem_cons] at h
    rcases h with h | h | h
    · simpa [plainChar] using (this.1 _ h).1
    · cases h
    · simpa [plainChar] using this.2 _ h
  have hne : (queryParams token ns all).map joinPair ≠ [] := by simp [queryParams]
  rw [decodeQuery, show String.toList ⟨base ++ _⟩ = base ++ _ from rfl, queryPart_append hb ht,
    dialedQuery_eq, List.splitOn_intercalate _ _ hamp hne, List.map_map]
  exact (List.map_congr_left fun kv hkv => decodePair_joinPair (plain_queryParams all htok hns kv
    hkv).1 (plain_queryParams all htok hns kv hkv).2).trans (List.map_id _)

end Dialed

/-- A dialed URL: the base, the endpoint, and the query after `?`. -/
theorem dialURL_eq (url endpoint token ns : String) (all : Bool) :
    url ++ (endpoint ++ "?token=") ++ token ++ "&namespace=" ++ ns ++
        (if all then "&mode=all" else "") =
      ⟨url.toList ++ endpoint.toList ++ '?' ::
        ("token=" ++ token ++ "&namespace=" ++ ns ++ if all then "&mode=all" else "").toList⟩ :=
  String.ext (by simp [String.data_append])

/-! ## The dialed URLs -/

theorem dialed_query_roundtrip (cfg : Config) (password : String) (allNamespaces : Bool)
    (hurl : '?' ∉ cfg.url.toList ∧ '#' ∉ cfg.url.toList)
    (hpw : ∀ c ∈ password.toList, plainChar c) (hns : ∀ c ∈ cfg.«namespace».toList, plainChar c) :
    decodeQuery (connectURL cfg password) = queryParams password cfg.«namespace» cfg.receiveAll ∧
      decodeQuery (Subscribe.subscribeURL cfg password allNamespaces) =
        queryParams password cfg.«namespace» allNamespaces := by
  have hbase (c : Char) (h : c ∉ cfg.url.toList) (h₁ : c ∉ "ws://".toList)
      (h₂ : c ∉ "wss://".toList) (endpoint : String) (he : c ∉ endpoint.toList) :
      c ∉ (wsBase cfg.url).toList ++ endpoint.toList :=
    List.not_mem_append (not_mem_wsBase h h₁ h₂) he
  constructor
  · rw [connectURL, show "/wsapi?token=" = "/wsapi" ++ "?token=" from rfl, dialURL_eq]
    exact decodeQuery_dialed _ hpw hns ⟨hbase _ hurl.1 (by decide) (by decide) _ (by decide),
      hbase _ hurl.2 (by decide) (by decide) _ (by decide)⟩
  · rw [Subscribe.subscribeURL, show "/events?token=" = "/events" ++ "?token=" from rfl,
      dialURL_eq]
    exact decodeQuery_dialed _ hpw hns ⟨hbase _ hurl.1 (by decide) (by decide) _ (by decide),
      hbase _ hurl.2 (by decide) (by decide) _ (by decide)⟩

theorem dialed_query_roundtrip_plain :
    ('?' ∉ "http://h".toList ∧ '#' ∉ "http://h".toList) ∧ (∀ c ∈ "t0k=".toList, plainChar c) ∧
      (∀ c ∈ "ns".toList, plainChar c) ∧
      decodeQuery (connectURL (newWebSocketManipulatorWithNamespace "u" "p" "http://h" "ns")
          "t0k=") = queryParams "t0k=" "ns" false ∧
        decodeQuery (Subscribe.subscribeURL
            (newWebSocketManipulatorWithNamespace "u" "p" "http://h" "ns") "t0k=" true) =
          queryParams "t0k=" "ns" true :=
  ⟨by decide, by decide, by decide,
    dialed_query_roundtrip (newWebSocketManipulatorWithNamespace "u" "p" "http://h" "ns") "t0k="
      true (by decide) (by decide) (by decide)⟩

theorem namespace_injects_mode :
    decodeQuery (connectURL (newWebSocketManipulatorWithNamespace "u" "p" "http://h" "a&mode=all")
        "p") = [("token", "p"), ("namespace", "a"), ("mode", "all")] ∧
      decodeQuery (Subscribe.subscribeURL
          (newWebSocketManipulatorWithNamespace "u" "p" "http://h" "a&mode=all") "p" false) =
        [("token", "p"), ("namespace", "a"), ("mode", "all")] ∧
      (newWebSocketManipulatorWithNamespace "u" "p" "http://h" "a&mode=all").receiveAll = false ∧
      queryParams "p" "a&mode=all" false = [("token", "p"), ("namespace", "a&mode=all")] := by
  decide

end Manipulate.Websocket
