import Mathlib.Data.List.TakeWhile
import LedgerBoard.Proofs.Session.Address

/-!
# The endpoint of a base address

The endpoint path takes the place of the slashes at the end of a base address, however many there
are. Sessions are opened on the host of the base address exactly if something other than slashes
stands behind its scheme: if nothing does, the slashes of the scheme are dropped as well, and the
scheme is taken for the host.
-/

namespace LedgerBoard

namespace Address

theorem dropSlashes_eq_nil_iff {text : List Char} :
    dropSlashes text = [] ↔ ∀ c ∈ text, c = '/' := by
  simp [dropSlashes, List.dropWhile_eq_nil_iff]

/-- What `dropSlashes` drops are slashes. -/
theorem exists_slashes_dropped (text : List Char) :
    ∃ slashes, text = dropSlashes text ++ slashes ∧ ∀ c ∈ slashes, c = '/' := by
  refine ⟨(text.reverse.takeWhile (· == '/')).reverse, ?_, ?_⟩
  · rw [dropSlashes, ← List.reverse_append, List.takeWhile_append_dropWhile, List.reverse_reverse]
  · intro c mem
    simpa using List.mem_takeWhile_imp (List.mem_reverse.mp mem)

/-- It does not matter how many slashes are dropped. -/
theorem dropSlashes_append_slashes (text : List Char) (count : Nat) :
    dropSlashes (text ++ List.replicate count '/') = dropSlashes text := by
  rw [dropSlashes, List.reverse_append, List.reverse_replicate,
    List.dropWhile_append_of_pos (by simp)]
  rfl

/-- Nothing before a part with another character in it is dropped. -/
theorem dropSlashes_append_of_other {back : List Char} (other : ∃ c ∈ back, c ≠ '/')
    (front : List Char) :
    dropSlashes (front ++ back) = front ++ dropSlashes back := by
  have kept : back.reverse.dropWhile (· == '/') ≠ [] := by
    simpa [List.dropWhile_eq_nil_iff] using other
  rw [dropSlashes, List.reverse_append, List.dropWhile_append, List.isEmpty_eq_false_iff.mpr kept]
  simp [dropSlashes]

/-- Slashes at the end of an address do not change its endpoint. -/
theorem endpoint_append_slashes (base : String) (count : Nat) :
    endpoint (base ++ String.ofList (List.replicate count '/')) = endpoint base := by
  rw [endpoint, String.toList_append, String.toList_ofList, dropSlashes_append_slashes, endpoint]

/-- The host is what stands behind the scheme, up to the first character that ends it. -/
theorem host_append {scheme : List Char} (ends : ':' ∉ scheme) (rest : List Char) :
    host (String.ofList (scheme ++ "://".toList ++ rest)) =
      String.ofList (rest.takeWhile fun c => !endsHost c) := by
  rw [host, hostChars, String.toList_ofList, afterScheme?_append ends, Option.getD_some]

/-- A host ends before anything that starts with the end of a host. -/
theorem takeWhile_append_of_ends (front : List Char) {back : List Char}
    (ends : ∀ c ∈ back.head?, endsHost c = true) :
    (front ++ back).takeWhile (fun c => !endsHost c) = front.takeWhile fun c => !endsHost c := by
  have none : back.takeWhile (fun c => !endsHost c) = [] := by
    cases back with
    | nil => rfl
    | cons c rest => simp [ends c rfl]
  rw [List.takeWhile_append, none]
  split
  · rename_i whole
    rw [List.append_nil, (List.takeWhile_prefix _).eq_of_length whole]
  · rfl

/-- The endpoint of a base address with something behind its scheme has the same host. -/
theorem host_endpoint_of_other {scheme rest : List Char} (ends : ':' ∉ scheme)
    (other : ∃ c ∈ rest, c ≠ '/') :
    host (endpoint (String.ofList (scheme ++ "://".toList ++ rest))) =
      host (String.ofList (scheme ++ "://".toList ++ rest)) := by
  obtain ⟨slashes, cut, all_slashes⟩ := exists_slashes_dropped rest
  have path_ends : ∀ c ∈ endpointPath.toList.head?, endsHost c = true := by
    rintro c ⟨rfl⟩
    decide
  have slashes_end : ∀ c ∈ slashes.head?, endsHost c = true := by
    intro c first
    rw [all_slashes c (List.mem_of_mem_head? first)]
    decide
  have target : endpoint (String.ofList (scheme ++ "://".toList ++ rest)) =
      String.ofList (scheme ++ "://".toList ++ (dropSlashes rest ++ endpointPath.toList)) := by
    rw [endpoint, String.toList_ofList, dropSlashes_append_of_other other, ← String.toList_inj]
    simp
  have same_host :
      rest.takeWhile (fun c => !endsHost c) = (dropSlashes rest).takeWhile fun c => !endsHost c :=
    calc
      _ = (dropSlashes rest ++ slashes).takeWhile fun c => !endsHost c := by rw [← cut]
      _ = _ := takeWhile_append_of_ends _ slashes_end
  rw [target, host_append ends, host_append ends, takeWhile_append_of_ends _ path_ends, same_host]

/-- The endpoint of a scheme with slashes only has lost the slashes of the scheme. -/
theorem endpoint_of_slashes (scheme : List Char) {rest : List Char}
    (all_slashes : ∀ c ∈ rest, c = '/') :
    endpoint (String.ofList (scheme ++ "://".toList ++ rest)) =
      String.ofList (scheme ++ ":/ws".toList) := by
  have nothing : dropSlashes ("//".toList ++ rest) = [] :=
    dropSlashes_eq_nil_iff.mpr (by simpa using all_slashes)
  have split : scheme ++ "://".toList ++ rest = (scheme ++ [':']) ++ ("//".toList ++ rest) := by
    simp
  rw [split, endpoint_append (by simp), nothing, endpointPath]
  simp

/-- An address with nothing but slashes behind its scheme has no host. -/
theorem host_of_slashes {scheme rest : List Char} (ends : ':' ∉ scheme)
    (all_slashes : ∀ c ∈ rest, c = '/') :
    host (String.ofList (scheme ++ "://".toList ++ rest)) = "" := by
  rw [host_append ends]
  cases rest with
  | nil => rfl
  | cons c rest => simp [all_slashes c List.mem_cons_self, endsHost]

end Address

open Address

/-- An accepted base address has one of the two schemes. -/
theorem ServerSettings.exists_scheme {server : ServerSettings}
    (accepted : server.checkUrl = .ok ()) :
    ∃ scheme rest, (scheme = "ws".toList ∨ scheme = "wss".toList) ∧
      server.url = String.ofList (scheme ++ "://".toList ++ rest) := by
  have socket : isSocketAddress server.url = true := by
    rw [checkUrl] at accepted
    split at accepted
    · assumption
    · cases accepted
  simp only [isSocketAddress, Bool.or_eq_true, String.startsWith_string_iff] at socket
  rcases socket with ⟨rest, found⟩ | ⟨rest, found⟩
  · refine ⟨"ws".toList, rest, .inl rfl, ?_⟩
    rw [← String.toList_inj]
    simpa using found.symm
  · refine ⟨"wss".toList, rest, .inr rfl, ?_⟩
    rw [← String.toList_inj]
    simpa using found.symm

/-- More slashes at the end of an accepted base address lead to the same endpoint. The host of the
endpoint is the host of the base address exactly if what follows the first `://` is not made of
slashes only. -/
theorem ServerSettings.endpoint_keeps_host_iff {server : ServerSettings}
    (accepted : server.checkUrl = .ok ()) :
    (∀ count, endpoint (server.url ++ String.ofList (List.replicate count '/')) =
      endpoint server.url) ∧
      ∃ scheme rest, ':' ∉ scheme ∧ server.url = String.ofList (scheme ++ "://".toList ++ rest) ∧
        (host (endpoint server.url) = host server.url ↔ ¬∀ c ∈ rest, c = '/') := by
  refine ⟨endpoint_append_slashes server.url, ?_⟩
  obtain ⟨scheme, rest, known, url⟩ := exists_scheme accepted
  have ends : ':' ∉ scheme := by
    rcases known with rfl | rfl <;> decide
  refine ⟨scheme, rest, ends, url, ?_⟩
  constructor
  · intro same all_slashes
    rw [url, endpoint_of_slashes scheme all_slashes, host_of_slashes ends all_slashes] at same
    rcases known with rfl | rfl <;> exact absurd same (by decide)
  · intro other
    rw [url]
    exact host_endpoint_of_other ends (by simpa using other)

/-- Of an address that ends in its scheme, the scheme is taken for the host. -/
theorem ServerSettings.endpoint_keeps_host_iff_of_bare_scheme :
    let server : ServerSettings := { url := "ws://" }
    server.checkUrl = .ok () ∧ endpoint (server.url ++ "//") = endpoint server.url ∧
      host (endpoint server.url) ≠ host server.url := by
  intro server
  have accepted : server.checkUrl = .ok () := by
    rw [checkUrl, if_pos (by decide +kernel)]
  obtain ⟨slashes, scheme, rest, ends, url, keeps_iff⟩ := endpoint_keeps_host_iff accepted
  refine ⟨accepted, slashes 2, ?_⟩
  rw [Ne, keeps_iff, not_not]
  have after : afterScheme? server.url.toList = some rest := by
    rw [url, String.toList_ofList, afterScheme?_append ends]
  have nothing : rest = [] := Option.some.inj (after.symm.trans (by decide))
  rw [nothing]
  nofun

end LedgerBoard
