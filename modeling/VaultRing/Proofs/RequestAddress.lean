import VaultRing.Gateway.Client
import VaultRing.Proofs.PathNames

namespace VaultRing

namespace Url

variable {u : Url} {cs : List Char}

structure SameServer (u v : Url) : Prop where
  scheme : u.scheme = v.scheme
  username : u.username = v.username
  password : u.password = v.password
  host : u.host = v.host
  port : u.port = v.port

theorem sameServer_push (u : Url) (given : List String) : (u.push given).SameServer u :=
  ⟨rfl, rfl, rfl, rfl, rfl⟩

theorem parted_of_ofChars? (h : ofChars? cs = some u) : Parted u.path := by
  simp only [ofChars?, bind, Option.bind_eq_some_iff] at h
  obtain ⟨_, -, h⟩ := h
  split at h
  · cases h
  obtain ⟨_, -, h⟩ := Option.bind_eq_some_iff.mp h
  obtain ⟨_, -, hu⟩ := Option.bind_eq_some_iff.mp h
  rw [← Option.some.inj hu]
  exact parted_pathOf _

theorem names_eq_of_text_eq {given given' : List String}
    (h : (u.push given).text = (u.push given').text) :
    (u.push given).names = (u.push given').names := by
  have hwrite (given : List String) : (u.push given).write =
      u.scheme.name ++ ':' :: '/' :: '/' :: u.userinfoText ++ u.host.text ++ u.portText ++
        pathText (u.push given).path ++ marked '?' u.query ++ marked '#' u.fragment := rfl
  have hsame : (u.push given).write = (u.push given').write := String.ofList_injective h
  rw [hwrite, hwrite, List.append_cancel_right_eq, List.append_cancel_right_eq,
    List.append_cancel_left_eq] at hsame
  rw [names, names, hsame]

end Url

namespace HttpClient

open Url (Kept EndsOnce Parted front percentDecode segmentOf)

variable {c : HttpClient} {host token vaultId itemId : String}

theorem parted_of_create (h : create host token = .ok c) : Parted c.base.path := by
  unfold create at h
  dsimp only at h
  split at h
  · rename_i base hbase
    rw [← Except.ok.inj h]
    exact Url.parted_of_ofChars? hbase
  · cases h

theorem kept_v1 : Kept "v1" := by decide

theorem kept_vaults : Kept "vaults" := by decide

theorem kept_items : Kept "items" := by decide

def start (c : HttpClient) : List Url.Segment := front c.base.path ++ [segmentOf "v1"]

theorem v1_mem_start (c : HttpClient) : segmentOf "v1" ∈ c.start := by simp [start]

theorem collectionUrl_path (c : HttpClient) (vaultId : String) :
    ∃ tail, (c.collectionUrl vaultId).path = c.start ++ tail ++ [segmentOf "items"] ∧
      tail.length ≤ 2 ∧
      (tail.map percentDecode = ["vaults", vaultId].map textBytes ↔ Kept vaultId) := by
  have hv1 : segmentOf "v1" ≠ [] := by decide
  have hstart : Url.pushSegment (Url.dropEmptyEnd c.base.path) "v1" = c.start :=
    Url.pushSegment_kept kept_v1 _
  have hvaults : Url.pushSegment c.start "vaults" = c.start ++ [segmentOf "vaults"] :=
    Url.pushSegment_to kept_vaults hv1 c.v1_mem_start
  have hne : c.start ++ [segmentOf "vaults"] ≠ [[]] := Url.concat_ne_empty (by decide)
  obtain ⟨tail, hpush, hlen, hkept⟩ := Url.pushSegment_last (by decide) hne vaultId
  have hitems :
      Url.pushSegment (c.start ++ tail) "items" = c.start ++ tail ++ [segmentOf "items"] :=
    Url.pushSegment_to kept_items hv1 (List.mem_append_left tail c.v1_mem_start)
  refine ⟨tail, ?_, hlen, ?_⟩
  · simp only [collectionUrl, Url.push, List.foldl_cons, List.foldl_nil, hstart, hvaults, hpush,
      hitems]
  · simpa [Url.percentDecode_segmentOf] using hkept

theorem itemUrl_path (c : HttpClient) (vaultId itemId : String) :
    ∃ tail tail', (c.itemUrl vaultId itemId).path = c.start ++ (tail ++ tail') ∧
      tail.length ≤ 2 ∧ tail'.length ≤ 2 ∧
      (tail.map percentDecode = ["vaults", vaultId].map textBytes ↔ Kept vaultId) ∧
      (tail'.map percentDecode = ["items", itemId].map textBytes ↔ Kept itemId) := by
  obtain ⟨tail, hpath, hlen, hkept⟩ := c.collectionUrl_path vaultId
  have hne : c.start ++ tail ++ [segmentOf "items"] ≠ [[]] := Url.concat_ne_empty (by decide)
  obtain ⟨tail', hpush, hlen', hkept'⟩ := Url.pushSegment_last (by decide) hne itemId
  refine ⟨tail, tail', ?_, hlen, hlen', hkept, ?_⟩
  · rw [← List.append_assoc, ← hpush, ← hpath]
    rfl
  · simpa [Url.percentDecode_segmentOf] using hkept'

def endpoint (c : HttpClient) (vaultId : String) : Option String → Url
  | none => c.collectionUrl vaultId
  | some itemId => c.itemUrl vaultId itemId

def asked (vaultId : String) (itemId? : Option String) : List String :=
  ["vaults", vaultId, "items"] ++ itemId?.toList

theorem parted_endpoint (h : Parted c.base.path) (vaultId : String) (itemId? : Option String) :
    Parted (c.endpoint vaultId itemId?).path := by
  cases itemId? <;> exact Url.parted_push h _

theorem endpoint_path (c : HttpClient) (vaultId : String) (itemId? : Option String) :
    ∃ tail, (c.endpoint vaultId itemId?).path = c.start ++ tail ∧
      (tail.map percentDecode = (asked vaultId itemId?).map textBytes ↔
        Kept vaultId ∧ ∀ itemId ∈ itemId?, Kept itemId) := by
  cases itemId? with
  | none =>
    obtain ⟨tail, hpath, -, hkept⟩ := c.collectionUrl_path vaultId
    refine ⟨tail ++ [segmentOf "items"], by rw [← List.append_assoc, ← hpath]; rfl, ?_⟩
    have hasked : (asked vaultId none).map textBytes =
        ["vaults", vaultId].map textBytes ++ [textBytes "items"] := rfl
    rw [hasked, List.map_append, List.map_singleton, Url.percentDecode_segmentOf,
      List.append_cancel_right_eq, hkept]
    simp
  | some itemId =>
    obtain ⟨tail, tail', hpath, hlen, hlen', hkept, hkept'⟩ := c.itemUrl_path vaultId itemId
    refine ⟨tail ++ tail', hpath, ?_⟩
    have hasked : (asked vaultId (some itemId)).map textBytes =
        ["vaults", vaultId].map textBytes ++ ["items", itemId].map textBytes := rfl
    simp only [hasked, List.map_append, Option.mem_some_iff, forall_eq', ← hkept, ← hkept']
    refine ⟨fun h => ?_, fun ⟨h, h'⟩ => by rw [h, h']⟩
    have htotal : tail.length + tail'.length = 4 := by simpa using congrArg List.length h
    exact List.append_inj h (by simp; omega)

/-- What a path tells that goes on from the one of the host. -/
theorem names_eq_iff {u : Url} {tail : List Url.Segment} (h : Parted c.base.path)
    (hu : Parted u.path) (hpath : u.path = c.start ++ tail) (given : List String) :
    u.names = c.base.ownNames ++ ("v1" :: given).map textBytes ↔
      EndsOnce c.base.path ∧ tail.map percentDecode = given.map textBytes := by
  rw [hu.names_eq, h.ownNames_eq, hpath, start]
  simp only [List.map_append, List.map_cons, Url.percentDecode_segmentOf, List.append_assoc,
    List.singleton_append]
  by_cases honce : EndsOnce c.base.path
  · simp [honce.front_eq, honce]
  · obtain ⟨empties, hfront⟩ := Url.exists_front_of_not_endsOnce honce
    have hv1 : [] ≠ textBytes "v1" := by decide
    simp [hfront, honce, percentDecode, hv1]

theorem endpoint_eq_push (c : HttpClient) (vaultId : String) (itemId? : Option String) :
    c.endpoint vaultId itemId? = c.base.push ("v1" :: asked vaultId itemId?) := by
  cases itemId? <;> rfl

theorem asked_injective {vaultId' : String} {itemId? itemId?' : Option String}
    (h : (asked vaultId itemId?).map textBytes = (asked vaultId' itemId?').map textBytes) :
    vaultId = vaultId' ∧ itemId? = itemId?' := by
  have hasked := List.map_injective_iff.mpr (fun _ _ => textBytes_injective) h
  cases itemId? <;> cases itemId?' <;> simp_all [asked]

theorem eq_of_text_eq {vaultId' : String} {itemId? itemId?' : Option String}
    (hbase : Parted c.base.path) (hkept : Kept vaultId ∧ ∀ itemId ∈ itemId?, Kept itemId)
    (hkept' : Kept vaultId' ∧ ∀ itemId ∈ itemId?', Kept itemId)
    (h : (c.endpoint vaultId itemId?).text = (c.endpoint vaultId' itemId?').text) :
    vaultId = vaultId' ∧ itemId? = itemId?' := by
  have hnames : (c.endpoint vaultId itemId?).names = (c.endpoint vaultId' itemId?').names := by
    rw [endpoint_eq_push, endpoint_eq_push] at *
    exact Url.names_eq_of_text_eq h
  obtain ⟨tail, hpath, htold⟩ := c.endpoint_path vaultId itemId?
  obtain ⟨tail', hpath', htold'⟩ := c.endpoint_path vaultId' itemId?'
  rw [(parted_endpoint hbase _ _).names_eq, (parted_endpoint hbase _ _).names_eq, hpath, hpath',
    List.map_append, List.map_append, List.append_cancel_left_eq, htold.mpr hkept,
    htold'.mpr hkept'] at hnames
  exact asked_injective hnames

/-- A request goes to the server of the host. Its path goes on from the one of the host with just
the vault and the item that are asked for if and only if these are told as they are given and the
host ends in no more than one slash. No two requests for kept names go to one address. -/
theorem addresses_tell_kept_names (h : create host token = .ok c) (hquery : c.base.query = none)
    (hfragment : c.base.fragment = none) :
    (∀ vaultId itemId?, (c.endpoint vaultId itemId?).SameServer c.base ∧
      (c.endpoint vaultId itemId?).query = none ∧ (c.endpoint vaultId itemId?).fragment = none ∧
      ((c.endpoint vaultId itemId?).names =
          c.base.ownNames ++ ("v1" :: asked vaultId itemId?).map textBytes ↔
        EndsOnce c.base.path ∧ Kept vaultId ∧ ∀ itemId ∈ itemId?, Kept itemId)) ∧
    ∀ vaultId itemId? vaultId' itemId?', (Kept vaultId ∧ ∀ itemId ∈ itemId?, Kept itemId) →
      (Kept vaultId' ∧ ∀ itemId ∈ itemId?', Kept itemId) →
      (c.endpoint vaultId itemId?).text = (c.endpoint vaultId' itemId?').text →
      vaultId = vaultId' ∧ itemId? = itemId?' := by
  have hbase : Parted c.base.path := parted_of_create h
  refine ⟨fun vaultId itemId? => ?_, fun _ _ _ _ => eq_of_text_eq hbase⟩
  obtain ⟨tail, hpath, htold⟩ := c.endpoint_path vaultId itemId?
  have hnames := names_eq_iff hbase (parted_endpoint hbase _ _) hpath (asked vaultId itemId?)
  rw [htold] at hnames
  rw [endpoint_eq_push] at hnames ⊢
  exact ⟨Url.sameServer_push _ _, hquery, hfragment, hnames⟩

def loopback : HttpClient where
  host := "http://[::1]:8080/connect"
  base :=
    { scheme := .http, username := [], password := none, host := .ipv6 [0, 0, 0, 0, 0, 0, 0, 1]
      port := some 8080, path := [segmentOf "connect"], query := none, fragment := none }
  token := "token"

theorem create_loopback : create "http://[::1]:8080/connect/" "token" = .ok loopback := by
  rfl

theorem loopback_tells_escaped_dots :
    create "http://[::1]:8080/connect/" "token" = .ok loopback ∧ loopback.base.query = none ∧
      loopback.base.fragment = none ∧ EndsOnce loopback.base.path ∧ Kept "va/ult" ∧ Kept "%2e%2e" ∧
      (loopback.endpoint "va/ult" (some "%2e%2e")).names =
        loopback.base.ownNames ++ ["v1", "vaults", "va/ult", "items", "%2e%2e"].map textBytes ∧
      (loopback.endpoint "va/ult" (some "%2e%2e")).text =
        "http://[::1]:8080/connect/v1/vaults/va%2Fult/items/%252e%252e" := by
  have honce : EndsOnce loopback.base.path := fun s h => by simpa [loopback] using h.length_le
  have hvault : Kept "va/ult" := by decide
  have hitem : Kept "%2e%2e" := by decide
  obtain ⟨hnames, -⟩ := addresses_tell_kept_names create_loopback rfl rfl
  refine ⟨create_loopback, rfl, rfl, honce, hvault, hitem, ?_, rfl⟩
  exact (hnames "va/ult" (some "%2e%2e")).2.2.2.mpr ⟨honce, hvault, by simpa using hitem⟩

/-- The item `.` is asked for where all items are, and the item with a tab where one without is. -/
theorem loopback_loses_dot_and_tab :
    create "http://[::1]:8080/connect/" "token" = .ok loopback ∧
      (loopback.itemUrl "v" ".").text = (loopback.collectionUrl "v").text ∧
      (loopback.itemUrl "v" "a\tb").text = (loopback.itemUrl "v" "ab").text ∧
      (loopback.itemUrl "v" ".\t.").names =
        loopback.base.ownNames ++ ["v1", "vaults", "v", ""].map textBytes :=
  ⟨create_loopback, rfl, rfl, rfl⟩

end HttpClient

end VaultRing
