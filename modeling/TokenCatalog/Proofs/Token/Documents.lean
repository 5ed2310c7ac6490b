import TokenCatalog.CustomToken
import TokenCatalog.Proofs.ListFormat.Documents

namespace TokenCatalog

open Json

/-!
# Tokens and token lists — which documents they are read of

* `Address.value?`, `Address.means_read` — a string of an address, with or without its `0x`;
* `Token.value?`, `TokenList.value?`, `CustomToken.value?` — what the records are read of, each with
  the meaning of its reader.
-/

/-! ### Addresses -/

namespace Address

/-- What an address is read of. -/
def value? (o : Outline) : Option Address := o.text?.bind fun s => (ofJsonText s).toOption

theorem means_read : read.Means value? := by
  intro s a r
  rw [read, Reader.run_peek_eq_ok_iff rfl]
  constructor
  · rintro ⟨b, t, hs, h⟩
    dsimp only at h
    split at h
    · rename_i hb
      subst hb
      obtain ⟨x, u, htext, h⟩ := Reader.run_bind_eq_ok_iff.1 (Reader.run_skip_bind .. ▸ h)
      obtain ⟨hbody, hspelled⟩ := text_eq_ok_iff.1 htext
      split at h
      · rename_i a' ha
        obtain ⟨rfl, rfl⟩ := Reader.run_pure_eq_ok_iff.1 h
        refine ⟨_, .string hs hbody, ?_⟩
        simp [value?, Outline.text?, hspelled, ha, Except.toOption]
      · cases h
    · exact absurd h Reader.run_wrongType_ne_ok
  · rintro ⟨o, ho, ha⟩
    cases ho with
    | string front body =>
      obtain ⟨x, hspelled, ha⟩ := Option.bind_eq_some_iff.1 ha
      refine ⟨_, _, front, ?_⟩
      simp only [if_pos, Reader.run_skip_bind]
      refine Reader.run_bind_eq_ok_iff.2 ⟨x, r, text_eq_ok_iff.2 ⟨body, hspelled⟩, ?_⟩
      cases hx : ofJsonText x with
      | error m =>
        rw [hx] at ha
        cases ha
      | ok a' =>
        rw [hx] at ha
        cases ha
        rfl
    | null | true | false | number | sequence | map => cases ha

/-- The text of an address is read with its `0x`. -/
theorem ofJsonText_toText (a : Address) : ofJsonText a.toText = .ok a := by
  have hdigits : (Hex.encode a.bytes).length = 40 ∧ (Hex.encode a.bytes).all Hex.isDigit := by
    constructor
    · rw [Hex.length_encode, a.length_bytes]
    · exact ((Hex.isSome_decode?_iff _).1 (by rw [Hex.decode?_encode]; rfl)).2
  have hfind : (Hex.encode a.bytes).find? (fun c => !Hex.isDigit c) = none := by
    apply List.find?_eq_none.2
    intro c hc
    simpa using List.all_eq_true.1 hdigits.2 c hc
  have htext : a.toText.toList = '0' :: 'x' :: Hex.encode a.bytes := by
    rw [toText, String.toList_ofList, toChars]
  simp only [ofJsonText, htext, ofDigits, hdigits.1, hfind]
  simp [Hex.decode?_encode, ofBytes?, a.length_bytes]

end Address

/-! ### Tokens -/

namespace Token

/-- The fields of a token. -/
def slots : Slots [String, UInt64, Address, UInt8, String, String, String, Bool] :=
  .cons (.withDefault "crossChainId" (fun _ => Outline.text?) "") <|
  .cons (.required "chainId" fun _ => Outline.uint64?) <|
  .cons (.required "address" fun _ => Address.value?) <|
  .cons (.required "decimals" fun _ => Outline.uint8?) <|
  .cons (.required "name" fun _ => Outline.text?) <|
  .cons (.required "symbol" fun _ => Outline.text?) <|
  .cons (.withDefault "logoURI" (fun _ => Outline.text?) "") <|
  .cons (.withDefault "customToken" (fun _ => Outline.bool?) false) .nil

/-- What a token is read of. -/
def value? (depth : Nat) (o : Outline) : Option Token :=
  (slots.of? depth o).map
    fun (crossChainId, chainId, address, decimals, name, symbol, logoUri, custom, ()) =>
      { crossChainId, chainId, address, decimals, name, symbol, logoUri, custom }

theorem means_read (depth : Nat) : (record.read depth).Means (value? depth) :=
  Record.means_read
    (.cons rfl rfl (fun _ => Reader.means_string) <|
      .cons rfl rfl (fun _ => Reader.means_uint64) <|
      .cons rfl rfl (fun _ => Address.means_read) <|
      .cons rfl rfl (fun _ => Reader.means_uint8) <|
      .cons rfl rfl (fun _ => Reader.means_string) <|
      .cons rfl rfl (fun _ => Reader.means_string) <|
      .cons rfl rfl (fun _ => Reader.means_string) <|
      .cons rfl rfl (fun _ => Reader.means_bool) .nil)
    (by decide) depth

end Token

namespace CustomToken

/-- The fields of a custom token. -/
def slots : Slots [UInt64, String, String, String, UInt32, String, String] :=
  .cons (.required "chainId" fun _ => Outline.uint64?) <|
  .cons (.required "address" fun _ => Outline.text?) <|
  .cons (.required "name" fun _ => Outline.text?) <|
  .cons (.required "symbol" fun _ => Outline.text?) <|
  .cons (.required "decimals" fun _ => Outline.uint32?) <|
  .cons (.withDefault "logoURI" (fun _ => Outline.text?) "") <|
  .cons (.withDefault "crossChainId" (fun _ => Outline.text?) "") .nil

/-- What a custom token is read of. -/
def value? (depth : Nat) (o : Outline) : Option CustomToken :=
  (slots.of? depth o).map
    fun (chainId, address, name, symbol, decimals, logoUri, crossChainId, ()) =>
      { chainId, address, name, symbol, decimals, logoUri, crossChainId }

theorem means_read (depth : Nat) : (record.read depth).Means (value? depth) :=
  Record.means_read
    (.cons rfl rfl (fun _ => Reader.means_uint64) <|
      .cons rfl rfl (fun _ => Reader.means_string) <|
      .cons rfl rfl (fun _ => Reader.means_string) <|
      .cons rfl rfl (fun _ => Reader.means_string) <|
      .cons rfl rfl (fun _ => Reader.means_uint32) <|
      .cons rfl rfl (fun _ => Reader.means_string) <|
      .cons rfl rfl (fun _ => Reader.means_string) .nil)
    (by decide) depth

end CustomToken

namespace TokenList

/-- The fields of a token list. -/
def slots : Slots [String, String, String, String, Version, SortedMap String Json, String,
    List String, List Token] :=
  .cons (.required "name" fun _ => Outline.text?) <|
  .cons (.required "timestamp" fun _ => Outline.text?) <|
  .cons (.required "fetchedTimestamp" fun _ => Outline.text?) <|
  .cons (.required "source" fun _ => Outline.text?) <|
  .cons (.required "version" Version.value?) <|
  .cons (.withDefault "tags" (Outline.dictionary? tag?) ∅) <|
  .cons (.withDefault "logoURI" (fun _ => Outline.text?) "") <|
  .cons (.withDefault "keywords" (Outline.list? fun _ => Outline.text?) []) <|
  .cons (.required "tokens" (Outline.list? Token.value?)) .nil

/-- What a token list is read of. -/
def value? (depth : Nat) (o : Outline) : Option TokenList :=
  (slots.of? depth o).map
    fun (name, timestamp, fetchedTimestamp, source, version, tags, logoUri, keywords, tokens, ()) =>
      { name, timestamp, fetchedTimestamp, source, version, tags, logoUri, keywords, tokens }

theorem means_read (depth : Nat) : (record.read depth).Means (value? depth) :=
  Record.means_read
    (.cons rfl rfl (fun _ => Reader.means_string) <|
      .cons rfl rfl (fun _ => Reader.means_string) <|
      .cons rfl rfl (fun _ => Reader.means_string) <|
      .cons rfl rfl (fun _ => Reader.means_string) <|
      .cons rfl rfl Version.means_read <|
      .cons rfl rfl (Reader.means_dictionary means_readTag) <|
      .cons rfl rfl (fun _ => Reader.means_string) <|
      .cons rfl rfl (Reader.means_list fun _ => Reader.means_string) <|
      .cons rfl rfl (Reader.means_list Token.means_read) .nil)
    (by decide) depth

end TokenList

end TokenCatalog
