import LedgerBoard.Frame.Basic
import LedgerBoard.Session.Basic
import LedgerBoard.Settings.Check

/-!
# The parts of an address

An address is `scheme://[user@]host[:port][path][?query][#fragment]`. The endpoint path is written
behind all of that, and the host of a session is all that stands between the scheme and the path. So
sessions are opened at the endpoint path below the path of the base address exactly if there is
neither a query nor a fragment, or the path ends in the endpoint path anyway; and the opening frame
names the host and the port alone exactly if there is no user name.
-/

namespace LedgerBoard

namespace Address

/-- The parts of an address with an authority. -/
structure Parts where
  scheme : List Char
  user : Option (List Char)
  host : List Char
  port : Option (List Char)
  path : List Char
  query : Option (List Char)
  fragment : Option (List Char)
  scheme_ends : ':' ∉ scheme
  user_ends : ∀ user' ∈ user, ∀ c ∈ user', endsHost c = false
  some_host : host ≠ []
  host_ends : ∀ c ∈ host, endsHost c = false ∧ c ≠ '@'
  port_ends : ∀ port' ∈ port, ∀ c ∈ port', endsHost c = false ∧ c ≠ '@'
  path_starts : path = [] ∨ path.head? = some '/'
  path_ends : ∀ c ∈ path, c ≠ '?' ∧ c ≠ '#'
  query_ends : ∀ query' ∈ query, '#' ∉ query'

namespace Parts

/-- A part with the mark that it stands behind, if it is there. -/
def behind (mark : Char) (part : Option (List Char)) : List Char :=
  part.elim [] (mark :: ·)

def hostPort (parts : Parts) : List Char :=
  parts.host ++ behind ':' parts.port

def authority (parts : Parts) : List Char :=
  (parts.user.elim [] fun user => user ++ ['@']) ++ parts.hostPort

/-- What follows the authority. -/
def tail (parts : Parts) : List Char :=
  parts.path ++ behind '?' parts.query ++ behind '#' parts.fragment

def text (parts : Parts) : String :=
  String.ofList (parts.scheme ++ "://".toList ++ (parts.authority ++ parts.tail))

end Parts

/-- What stands between the authority of an address and its query or fragment. -/
def pathChars (text : List Char) : List Char :=
  (((afterScheme? text).getD text).dropWhile fun c => !endsHost c).takeWhile
    fun c => c ≠ '?' && c ≠ '#'

theorem afterScheme?_append {scheme : List Char} (ends : ':' ∉ scheme) (rest : List Char) :
    afterScheme? (scheme ++ "://".toList ++ rest) = some rest := by
  induction scheme with
  | nil => rfl
  | cons c scheme ih =>
      simp only [List.mem_cons, not_or] at ends
      have skip : ∀ text, afterScheme? (c :: text) = afterScheme? text := by
        intro text
        rw [afterScheme?.eq_def]
        split
        · rename_i heads
          exact absurd (List.cons.inj heads).1.symm ends.1
        · rename_i heads
          rw [(List.cons.inj heads).2]
        · rename_i heads
          cases heads
      rw [List.cons_append, List.cons_append, skip]
      exact ih ends.2

namespace Parts

variable (parts : Parts)

/-- No part of an authority ends the host. -/
theorem endsHost_of_mem_authority : ∀ c ∈ parts.authority, endsHost c = false := by
  intro c mem
  simp only [authority, hostPort, List.mem_append] at mem
  rcases mem with in_user | in_host | in_port
  · cases user : parts.user with
    | none => simp [user] at in_user
    | some name =>
        simp only [user, Option.elim_some, List.mem_append, List.mem_singleton] at in_user
        rcases in_user with mem | rfl
        · exact parts.user_ends name user c mem
        · decide
  · exact (parts.host_ends c in_host).1
  · cases port : parts.port with
    | none => simp [port, behind] at in_port
    | some digits =>
        simp only [port, behind, Option.elim_some, List.mem_cons] at in_port
        rcases in_port with rfl | mem
        · decide
        · exact (parts.port_ends digits port c mem).1

theorem authority_ne_nil : parts.authority ≠ [] := by
  simp [authority, hostPort, parts.some_host]

theorem endsHost_of_head?_tail : ∀ c ∈ parts.tail.head?, endsHost c = true := by
  intro c first
  rcases parts.path_starts with no_path | slash
  · cases query : parts.query with
    | some query' =>
        simp only [tail, no_path, query, behind, Option.elim_some, List.nil_append,
          List.cons_append, List.head?_cons, Option.mem_some_iff] at first
        exact first ▸ rfl
    | none =>
        cases fragment : parts.fragment with
        | some fragment' =>
            simp only [tail, no_path, query, fragment, behind, Option.elim_some, Option.elim_none,
              List.nil_append, List.head?_cons, Option.mem_some_iff] at first
            exact first ▸ rfl
        | none => simp [tail, no_path, query, fragment, behind] at first
  · obtain ⟨rest, path⟩ := List.head?_eq_some_iff.mp slash
    simp only [tail, path, List.cons_append, List.head?_cons, Option.mem_some_iff] at first
    exact first ▸ rfl

/-- Behind the scheme stand the authority and the tail. -/
theorem afterScheme?_text :
    afterScheme? parts.text.toList = some (parts.authority ++ parts.tail) := by
  rw [text, String.toList_ofList, afterScheme?_append parts.scheme_ends]

theorem takeWhile_authority :
    (parts.authority ++ parts.tail).takeWhile (fun c => !endsHost c) = parts.authority := by
  rw [List.takeWhile_append_of_pos (by simpa using parts.endsHost_of_mem_authority)]
  cases tail : parts.tail with
  | nil => simp
  | cons c rest =>
      have ends := parts.endsHost_of_head?_tail c (by simp [tail])
      simp [ends]

theorem dropWhile_authority :
    (parts.authority ++ parts.tail).dropWhile (fun c => !endsHost c) = parts.tail := by
  rw [List.dropWhile_append_of_pos (by simpa using parts.endsHost_of_mem_authority)]
  cases tail : parts.tail with
  | nil => rfl
  | cons c rest =>
      have ends := parts.endsHost_of_head?_tail c (by simp [tail])
      simp [ends]

/-- The host part of an address is its authority, with a user name if there is one. -/
theorem host_text : Address.host parts.text = String.ofList parts.authority := by
  rw [Address.host, hostChars, afterScheme?_text, Option.getD_some, takeWhile_authority]

/-- There is only one path in an address. -/
theorem pathChars_text : pathChars parts.text.toList = parts.path := by
  rw [pathChars, afterScheme?_text, Option.getD_some, dropWhile_authority, tail, List.append_assoc,
    List.takeWhile_append_of_pos (by simpa using parts.path_ends)]
  cases query : parts.query with
  | some query' => simp [behind]
  | none =>
      cases fragment : parts.fragment with
      | some fragment' => simp [behind]
      | none => simp [behind]

/-- The authority is the host with its port, unless there is user information. -/
theorem authority_eq_hostPort_iff : parts.authority = parts.hostPort ↔ parts.user = none := by
  cases user : parts.user with
  | none => simp [authority, user]
  | some name =>
      simp only [authority, user, Option.elim_some, reduceCtorEq, iff_false]
      intro same
      have lengths := congrArg List.length same
      simp only [List.length_append, List.length_cons, List.length_nil] at lengths
      omega

end Parts

theorem prefix_dropSlashes (text : List Char) : dropSlashes text <+: text := by
  rw [dropSlashes, ← List.reverse_suffix, List.reverse_reverse]
  exact List.dropWhile_suffix _

/-- Slashes are dropped from the end of the last part only, as the parts before it end in something
else. -/
theorem dropSlashes_append {front : List Char} (solid : front.getLast? ≠ some '/')
    (back : List Char) :
    dropSlashes (front ++ back) = front ++ dropSlashes back := by
  have kept : front.reverse.dropWhile (· == '/') = front.reverse := by
    cases reversed : front.reverse with
    | nil => rfl
    | cons c rest =>
        have last : front.getLast? = some c := by
          rw [← List.head?_reverse, reversed, List.head?_cons]
        have no_slash : (c == '/') = false := by
          rw [beq_eq_false_iff_ne]
          exact fun slash => solid (slash ▸ last)
        simp [no_slash]
  rw [dropSlashes, List.reverse_append, List.dropWhile_append]
  split
  · rename_i all_slashes
    rw [dropSlashes, List.isEmpty_iff.mp all_slashes, kept]
    simp
  · simp [dropSlashes]

/-- The path of the endpoint is put behind the whole text, once its last slashes are dropped. -/
theorem endpoint_append {front : List Char} (solid : front.getLast? ≠ some '/') (back : List Char) :
    endpoint (String.ofList (front ++ back)) =
      String.ofList (front ++ (dropSlashes back ++ endpointPath.toList)) := by
  rw [endpoint, String.toList_ofList, dropSlashes_append solid, ← String.toList_inj]
  simp

namespace Parts

variable (parts : Parts)

theorem getLast?_authority : parts.authority.getLast? ≠ some '/' := by
  intro slash
  exact absurd (parts.endsHost_of_mem_authority '/' (List.mem_of_getLast? slash)) (by decide)

theorem head?_endpoint_path : (dropSlashes parts.path ++ endpointPath.toList).head? = some '/' := by
  rcases parts.path_starts with no_path | slash
  · rw [no_path]
    rfl
  · obtain ⟨rest, path⟩ := List.head?_eq_some_iff.mp slash
    cases kept : dropSlashes parts.path with
    | nil => rfl
    | cons c others =>
        have front := prefix_dropSlashes parts.path
        rw [kept, path, List.cons_prefix_cons] at front
        rw [front.1]
        rfl

/-- The endpoint path goes behind the last part of an address, whichever this is. -/
theorem exists_endpoint :
    ∃ target : Parts, target.text = endpoint parts.text ∧ target.authority = parts.authority ∧
      target.path = if parts.query = none ∧ parts.fragment = none then
        dropSlashes parts.path ++ endpointPath.toList else parts.path := by
  let start := parts.scheme ++ "://".toList ++ parts.authority
  cases fragment : parts.fragment with
  | some fragment' =>
      let front := start ++ parts.path ++ behind '?' parts.query ++ ['#']
      let target : Parts :=
        { parts with fragment := some (dropSlashes fragment' ++ endpointPath.toList) }
      have base : parts.text = String.ofList (front ++ fragment') := by
        simp [text, tail, fragment, behind, front, start]
      refine ⟨target, ?_, rfl, by simp [target]⟩
      rw [base, endpoint_append (by simp [front])]
      simp [target, text, tail, behind, front, start, authority, hostPort]
  | none =>
      cases query : parts.query with
      | some query' =>
          let front := start ++ parts.path ++ ['?']
          let target : Parts :=
            { parts with
              query := some (dropSlashes query' ++ endpointPath.toList)
              query_ends := by
                rintro _ ⟨rfl⟩ mem
                rcases List.mem_append.mp mem with mem | mem
                · exact parts.query_ends query' query ((prefix_dropSlashes query').subset mem)
                · exact absurd mem (by decide) }
          have base : parts.text = String.ofList (front ++ query') := by
            simp [text, tail, fragment, query, behind, front, start]
          refine ⟨target, ?_, rfl, by simp [target]⟩
          rw [base, endpoint_append (by simp [front])]
          simp [target, text, tail, fragment, behind, front, start, authority, hostPort]
      | none =>
          let target : Parts :=
            { parts with
              path := dropSlashes parts.path ++ endpointPath.toList
              path_starts := .inr parts.head?_endpoint_path
              path_ends := by
                intro c mem
                rcases List.mem_append.mp mem with mem | mem
                · exact parts.path_ends c ((prefix_dropSlashes parts.path).subset mem)
                · exact (show ∀ c ∈ endpointPath.toList, c ≠ '?' ∧ c ≠ '#' by simp [endpointPath])
                    c mem }
          have base : parts.text = String.ofList (start ++ parts.path) := by
            simp [text, tail, fragment, query, behind, start]
          refine ⟨target, ?_, rfl, by simp [target]⟩
          have solid : start.getLast? ≠ some '/' := by
            have solid := parts.getLast?_authority
            cases last : parts.authority.getLast? with
            | none => exact absurd (List.getLast?_eq_none_iff.mp last) parts.authority_ne_nil
            | some c =>
                rw [last] at solid
                rw [List.getLast?_append, last]
                exact solid
          rw [base, endpoint_append solid]
          simp [target, text, tail, fragment, query, behind, start, authority, hostPort]

end Parts

end Address

namespace SessionPlan

open Address

/-- A plan is for an address with a path, which ends in the endpoint path exactly if the base
address has neither a query nor a fragment, or a path that ends so. The host of the plan, which the
opening frame names, is the host and the port of the base address exactly if that has no user
name. -/
theorem forServer_respects_parts_iff (base : Address.Parts) (heartbeat : Duration) :
    let plan := SessionPlan.forServer base.text heartbeat
    (∃ target : Address.Parts, target.text = plan.url) ∧
      (∀ target : Address.Parts, target.text = plan.url →
        (endpointPath.toList <:+ target.path ↔
          (base.query = none ∧ base.fragment = none) ∨ endpointPath.toList <:+ base.path)) ∧
      (plan.host = String.ofList base.hostPort ↔ base.user = none) ∧
      (Frame.connect plan.host plan.heartbeat.millis).header? "host" = some plan.host := by
  intro plan
  obtain ⟨target, url, authority, path⟩ := base.exists_endpoint
  have host : plan.host = String.ofList base.authority := by
    rw [SessionPlan.host, show plan.url = endpoint base.text from rfl, ← url, target.host_text,
      authority]
  refine ⟨⟨target, url⟩, ?_, ?_, rfl⟩
  · intro other other_url
    have same_path : other.path = target.path := by
      rw [← other.pathChars_text, ← target.pathChars_text, other_url, url]
      rfl
    rw [same_path, path]
    split
    · rename_i bare
      simp [bare]
    · rename_i more
      rw [or_iff_right more]
  · rw [host, String.ofList_inj, base.authority_eq_hostPort_iff]

/-- A query takes the endpoint path, and a user name with its password goes into the opening
frame. -/
theorem forServer_loses_parts :
    ∃ base : Address.Parts,
      base.text = "ws://me:pass@node:8080?x=1" ∧ isSocketAddress base.text = true ∧
      base.hostPort = "node:8080".toList ∧
      (SessionPlan.forServer base.text SessionPlan.usualHeartbeat).url =
        "ws://me:pass@node:8080?x=1/ws" ∧
      (∀ target : Address.Parts, target.text = "ws://me:pass@node:8080?x=1/ws" → target.path = []) ∧
      (SessionPlan.forServer base.text SessionPlan.usualHeartbeat).host = "me:pass@node:8080" := by
  let base : Address.Parts :=
    { scheme := "ws".toList
      user := some "me:pass".toList
      host := "node".toList
      port := some "8080".toList
      path := []
      query := some "x=1".toList
      fragment := none
      scheme_ends := by decide
      user_ends := by
        rintro _ ⟨rfl⟩
        simp [endsHost]
      some_host := by decide
      host_ends := by simp [endsHost]
      port_ends := by
        rintro _ ⟨rfl⟩
        simp [endsHost]
      path_starts := .inl rfl
      path_ends := nofun
      query_ends := by
        rintro _ ⟨rfl⟩
        decide }
  have text : base.text = "ws://me:pass@node:8080?x=1" := by decide
  refine ⟨base, text, ?_, by decide, ?_, ?_, ?_⟩
  · rw [text]
    decide +kernel
  · rw [text]
    decide +kernel
  · intro target target_text
    rw [← target.pathChars_text, target_text]
    decide +kernel
  · rw [text]
    decide +kernel

end SessionPlan

end LedgerBoard
