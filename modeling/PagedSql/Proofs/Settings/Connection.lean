import Mathlib.Data.List.Basic
import PagedSql.Settings

/-!
# What a connection string tells

The parts of a connection string stand as they are between `:`, `@` and `/`, and nothing marks a
separator that belongs to a part.  So one string can stand for different connections; it stands for one
alone exactly if no part can be taken to end, or to begin, at another separator.

* `Target`                where a connection goes and as whom, `Target.text` as it is written;
* `exists_later`, `cut_cases`   where a separator of a text can be in another cut of it;
* `Target.Unmistakable`   targets without a separator at which they could be cut in another way;
* `Target.eq_of_text`, `Target.unmistakable_of_unique`   these are the ones that are told by their text;
* `connection_unique_iff` when a connection string tells the connection;
* `password_names_other_host`   settings whose string stands for another host as well.
-/

namespace PagedSql
open PagedSql.Decimal

/-! ## targets -/

structure Target where
  username : String
  password : String
  host : String
  port : UInt16
  database : String
  deriving DecidableEq, Repr

def DatabaseSettings.target (s : DatabaseSettings) : Target :=
  ⟨s.username, s.password, s.host, s.port, s.database⟩

/-- the same bounds, with another target -/
def DatabaseSettings.aimedAt (s : DatabaseSettings) (x : Target) : DatabaseSettings :=
  { s with username := x.username, password := x.password, host := x.host, port := x.port,
           database := x.database }

namespace Target

/-- the password alone may be empty -/
structure Complete (x : Target) : Prop where
  username : x.username ≠ ""
  host : x.host ≠ ""
  port : x.port ≠ 0
  database : x.database ≠ ""

def portDigits (port : UInt16) : List Char := Nat.toDigits 10 port.toNat

/-- host, port and database as they are written -/
def place (host : List Char) (port : UInt16) (database : List Char) : List Char :=
  host ++ ':' :: (portDigits port ++ '/' :: database)

def text (x : Target) : List Char :=
  x.username.toList ++ ':' :: (x.password.toList ++ '@' :: place x.host.toList x.port x.database.toList)

end Target

open Target

theorem toList_connection (s : DatabaseSettings) :
    s.connection.toList = "postgresql://".toList ++ s.target.text := by
  have hcolon : ":".toList = [':'] := rfl
  have hat : "@".toList = ['@'] := rfl
  have hslash : "/".toList = ['/'] := rfl
  unfold DatabaseSettings.connection Target.text Target.place Target.portDigits
  simp only [String.toList_append, toList_natText, hcolon, hat, hslash, List.append_assoc,
    List.singleton_append]
  rfl

theorem connection_eq_iff {s t : DatabaseSettings} :
    s.connection = t.connection ↔ s.target.text = t.target.text := by
  rw [← String.toList_inj, toList_connection, toList_connection]
  exact List.append_right_inj _

/-! ## settings that can be used -/

theorem fault?_eq_none_iff_complete (s : DatabaseSettings) :
    s.fault? = none ↔ s.target.Complete ∧ s.minConnections ≠ 0 ∧ s.maxConnections ≠ 0 ∧
      ¬ s.maxConnections < s.minConnections ∧ s.connectionTimeout ≠ 0 := by
  have hrefuse : ∀ (p : Prop) [Decidable p] (f : SettingsFault) (rest : Option SettingsFault),
      (if p then some f else rest) = none ↔ ¬ p ∧ rest = none := by
    intro p _ f rest
    split <;> simp [*]
  unfold DatabaseSettings.fault?
  simp only [hrefuse, and_true]
  constructor
  · rintro ⟨hhost, hport, hdatabase, husername, hbounds⟩
    exact ⟨⟨husername, hhost, hport, hdatabase⟩, hbounds⟩
  · rintro ⟨⟨husername, hhost, hport, hdatabase⟩, hbounds⟩
    exact ⟨hhost, hport, hdatabase, husername, hbounds⟩

theorem fault?_aimedAt {s : DatabaseSettings} (h : s.fault? = none) {x : Target} (hx : x.Complete) :
    (s.aimedAt x).fault? = none :=
  (fault?_eq_none_iff_complete _).mpr ⟨hx, ((fault?_eq_none_iff_complete s).mp h).2⟩

/-! ## separators of a text in two cuts -/

section
variable {α : Type} {c : α}

/-- a separator that is not in the first part of a text comes behind it -/
theorem exists_behind {cs xs before after : List α} (h : cs ++ xs = before ++ c :: after)
    (hc : c ∉ cs) : ∃ mid, before = cs ++ mid ∧ xs = mid ++ c :: after := by
  rcases List.append_eq_append_iff.mp h with ⟨mid, hbefore, hxs⟩ | ⟨mid, hcs, hafter⟩
  · exact ⟨mid, hbefore, hxs⟩
  · cases mid with
    | nil => exact ⟨[], by simpa using hcs.symm, hafter.symm⟩
    | cons d mid =>
      obtain ⟨rfl, _⟩ := List.cons.inj hafter
      exact absurd (hcs ▸ List.mem_append_right _ List.mem_cons_self) hc

/-- and it comes behind the separator that ends this part, if that is another one -/
theorem exists_later {d : α} {cs xs before after : List α}
    (h : cs ++ d :: xs = before ++ c :: after) (hc : c ∉ cs) (hd : d ≠ c) :
    ∃ mid, before = cs ++ d :: mid ∧ xs = mid ++ c :: after := by
  obtain ⟨mid, hbefore, hxs⟩ := exists_behind h hc
  cases mid with
  | nil => exact absurd (List.cons.inj hxs).1 hd
  | cons e mid =>
    obtain ⟨rfl, hrest⟩ := List.cons.inj hxs
    exact ⟨mid, hbefore, hrest⟩

/-- two cuts of a text at a separator: at the same place, or one of them at a later one -/
theorem cut_cases {as xs bs ys : List α} (h : as ++ c :: xs = bs ++ c :: ys) :
    (as = bs ∧ xs = ys) ∨ (∃ mid, bs = as ++ c :: mid ∧ xs = mid ++ c :: ys) ∨
      ∃ mid, as = bs ++ c :: mid ∧ ys = mid ++ c :: xs := by
  rcases List.append_eq_append_iff.mp h with ⟨mid, hbs, hxs⟩ | ⟨mid, has, hys⟩
  · cases mid with
    | nil => exact Or.inl ⟨by simpa using hbs.symm, (List.cons.inj hxs).2⟩
    | cons d mid =>
      obtain ⟨rfl, hrest⟩ := List.cons.inj hxs
      exact Or.inr (Or.inl ⟨mid, hbs, hrest⟩)
  · cases mid with
    | nil => exact Or.inl ⟨by simpa using has, (List.cons.inj hys).2.symm⟩
    | cons d mid =>
      obtain ⟨rfl, hrest⟩ := List.cons.inj hys
      exact Or.inr (Or.inr ⟨mid, has, hrest⟩)

end

/-! ## places -/

namespace Target

theorem not_mem_portDigits {c : Char} (hc : c.isDigit = false) (port : UInt16) :
    c ∉ portDigits port := by
  intro h
  rw [Nat.isDigit_of_mem_toDigits (by decide) (by decide) h] at hc
  cases hc

theorem portDigits_injective {p q : UInt16} (h : portDigits p = portDigits q) : p = q := by
  have hp := readNat_toDigits p.toNat
  have hq := readNat_toDigits q.toNat
  rw [show Nat.toDigits 10 p.toNat = Nat.toDigits 10 q.toNat from h, hq] at hp
  exact UInt16.toNat_inj.mp (Option.some.inj hp).symm

/-- no part of a host is a port, and neither is one of a database, where something stands on both of
its sides -/
structure PlaceUnmistakable (host database : List Char) : Prop where
  host : ∀ before port after, port ≠ 0 →
    host = before ++ ':' :: (portDigits port ++ '/' :: after) → before = []
  database : ∀ before port after, port ≠ 0 →
    database = before ++ ':' :: (portDigits port ++ '/' :: after) → after = []

/-- behind a port and its slash, the next port is in the database -/
theorem exists_in_database {port port' : UInt16} {database mid database' : List Char}
    (h : portDigits port ++ '/' :: database = mid ++ ':' :: (portDigits port' ++ '/' :: database')) :
    ∃ before, database = before ++ ':' :: (portDigits port' ++ '/' :: database') := by
  obtain ⟨before, _, hdatabase⟩ := exists_later h (not_mem_portDigits (by decide) port) (by decide)
  exact ⟨before, hdatabase⟩

theorem eq_of_place {host host' database database' : List Char} {port port' : UInt16}
    (hx : PlaceUnmistakable host database) (hhost : host' ≠ []) (hport : port' ≠ 0)
    (hdatabase : database' ≠ []) (h : place host port database = place host' port' database') :
    host = host' ∧ port = port' ∧ database = database' := by
  unfold place at h
  rcases cut_cases h with ⟨rfl, hrest⟩ | ⟨mid, rfl, hrest⟩ | ⟨mid, rfl, hrest⟩
  · rcases cut_cases hrest with ⟨hdigits, rfl⟩ | ⟨mid, hdigits, _⟩ | ⟨mid, hdigits, _⟩
    · exact ⟨rfl, portDigits_injective hdigits, rfl⟩
    · exact absurd (hdigits ▸ List.mem_append_right _ List.mem_cons_self)
        (not_mem_portDigits (by decide) port')
    · exact absurd (hdigits ▸ List.mem_append_right _ List.mem_cons_self)
        (not_mem_portDigits (by decide) port)
  · obtain ⟨before, hbefore⟩ := exists_in_database hrest
    exact absurd (hx.database before port' database' hport hbefore) hdatabase
  · obtain ⟨after, rfl, _⟩ := exists_later hrest (not_mem_portDigits (by decide) port') (by decide)
    exact absurd (hx.host host' port' after hport rfl) hhost

/-- a place is not found again behind a sign in it, if the sign can only be the end of the host -/
theorem not_place_behind {host database before host' database' : List Char} {port port' : UInt16}
    (hx : PlaceUnmistakable host database) (hsign : ∀ a b, host = a ++ '@' :: b → b = [])
    (hhost : host' ≠ []) (hport : port' ≠ 0) (hdatabase : database' ≠ []) :
    place host port database ≠ before ++ '@' :: place host' port' database' := by
  intro h
  have hnone : ∀ a, database ≠ a ++ ':' :: (portDigits port' ++ '/' :: database') := fun a ha =>
    hdatabase (hx.database a port' database' hport ha)
  unfold place at h
  rcases List.append_eq_append_iff.mp h with ⟨mid, _, hrest⟩ | ⟨mid, hhead, hrest⟩
  · -- the sign is behind the host, so it is in the database, and the other port with it
    have hdigits : '@' ∉ ':' :: portDigits port := by
      rw [List.mem_cons]
      exact not_or.mpr ⟨by decide, not_mem_portDigits (by decide) port⟩
    rw [← List.cons_append] at hrest
    obtain ⟨a, _, hlater⟩ := exists_later hrest hdigits (by decide)
    refine hnone (a ++ '@' :: host') ?_
    rw [hlater, List.append_assoc, List.cons_append]
  · cases mid with
    | nil => exact absurd (List.cons.inj hrest).1 (by decide)
    | cons c mid =>
      -- the sign is the end of the host, and the other host begins at the colon behind it
      obtain ⟨rfl, htail⟩ := List.cons.inj hrest
      obtain rfl := hsign before mid hhead
      cases host' with
      | nil => exact hhost rfl
      | cons c rest =>
        obtain ⟨a, ha⟩ := exists_in_database (List.cons.inj htail).2.symm
        exact hnone a ha

/-! ## targets and their texts -/

/-- no separator in a part at which the text could be cut in another way -/
structure Unmistakable (x : Target) : Prop
    extends PlaceUnmistakable x.host.toList x.database.toList where
  username : ∀ before after, x.username.toList = before ++ ':' :: after → before = []
  passwordColon : ':' ∉ x.password.toList
  passwordSign : '@' ∉ x.password.toList
  hostSign : ∀ before after, x.host.toList = before ++ '@' :: after → after = []

theorem eq_of_toList {x y : Target} (husername : x.username.toList = y.username.toList)
    (hpassword : x.password.toList = y.password.toList) (hhost : x.host.toList = y.host.toList)
    (hport : x.port = y.port) (hdatabase : x.database.toList = y.database.toList) : x = y := by
  obtain ⟨username, password, host, port, database⟩ := x
  obtain rfl := String.toList_injective husername
  obtain rfl := String.toList_injective hpassword
  obtain rfl := String.toList_injective hhost
  obtain rfl := String.toList_injective hdatabase
  cases hport
  rfl

theorem toList_ne_nil {s : String} (h : s ≠ "") : s.toList ≠ [] :=
  fun hnil => h (String.toList_eq_nil_iff.mp hnil)

/-- **One target.**  A complete target with the text of an unmistakable one is this one. -/
theorem eq_of_text {x y : Target} (hx : x.Unmistakable) (hy : y.Complete) (h : y.text = x.text) :
    y = x := by
  have hhost := toList_ne_nil hy.host
  have hdatabase := toList_ne_nil hy.database
  have hbehind : ∀ before, place x.host.toList x.port x.database.toList ≠
      before ++ '@' :: place y.host.toList y.port y.database.toList := fun before =>
    not_place_behind hx.toPlaceUnmistakable hx.hostSign hhost hy.port hdatabase
  rcases cut_cases (show x.text = y.text from h.symm) with
    ⟨husername, hrest⟩ | ⟨mid, _, hrest⟩ | ⟨mid, husername, _⟩
  · rcases cut_cases hrest with ⟨hpassword, hplace⟩ | ⟨mid, _, hplace⟩ | ⟨mid, hpassword, _⟩
    · obtain ⟨hhosts, hports, hdatabases⟩ :=
        eq_of_place hx.toPlaceUnmistakable hhost hy.port hdatabase hplace
      exact eq_of_toList husername.symm hpassword.symm hhosts.symm hports.symm hdatabases.symm
    · exact absurd hplace (hbehind mid)
    · exact absurd (hpassword ▸ List.mem_append_right _ List.mem_cons_self) hx.passwordSign
  · obtain ⟨later, _, hplace⟩ := exists_later hrest hx.passwordColon (by decide)
    refine absurd ?_ (hbehind (later ++ ':' :: y.password.toList))
    rw [hplace, List.append_assoc, List.cons_append]
  · exact absurd (hx.username _ mid husername) (toList_ne_nil hy.username)

/-! ### another target for each such separator -/

theorem ofList_ne_empty {cs : List Char} (h : cs ≠ []) : String.ofList cs ≠ "" := by
  intro he
  have hnil := congrArg String.toList he
  rw [String.toList_ofList] at hnil
  exact h hnil

theorem ofList_ne_of_longer {s : String} {cs more : List Char} {c : Char}
    (h : s.toList = cs ++ c :: more) : String.ofList cs ≠ s := by
  rintro rfl
  rw [String.toList_ofList] at h
  simpa using congrArg List.length h

theorem ofList_append_ne (s : String) (c : Char) (more : List Char) :
    String.ofList (s.toList ++ c :: more) ≠ s := by
  intro h
  have hlonger := congrArg String.toList h
  rw [String.toList_ofList] at hlonger
  simpa using congrArg List.length hlonger

theorem unmistakable_of_unique {x : Target} (hx : x.Complete)
    (h : ∀ y : Target, y.Complete → y.text = x.text → y = x) : x.Unmistakable where
  username before after husername := by
    by_contra hbefore
    have hy := h { x with
      username := String.ofList before
      password := String.ofList (after ++ ':' :: x.password.toList) }
      ⟨ofList_ne_empty hbefore, hx.host, hx.port, hx.database⟩ (by simp [text, husername])
    exact ofList_ne_of_longer husername (congrArg Target.username hy)
  passwordColon hcolon := by
    obtain ⟨before, after, hpassword⟩ := List.append_of_mem hcolon
    have hy := h { x with
      username := String.ofList (x.username.toList ++ ':' :: before)
      password := String.ofList after }
      ⟨ofList_ne_empty (by simp), hx.host, hx.port, hx.database⟩ (by simp [text, hpassword])
    exact ofList_append_ne x.username ':' before (congrArg Target.username hy)
  passwordSign hsign := by
    obtain ⟨before, after, hpassword⟩ := List.append_of_mem hsign
    have hy := h { x with
      password := String.ofList before
      host := String.ofList (after ++ '@' :: x.host.toList) }
      ⟨hx.username, ofList_ne_empty (by simp), hx.port, hx.database⟩ (by simp [text, place, hpassword])
    exact ofList_ne_of_longer hpassword (congrArg Target.password hy)
  hostSign before after hhost := by
    by_contra hafter
    have hy := h { x with
      password := String.ofList (x.password.toList ++ '@' :: before)
      host := String.ofList after }
      ⟨hx.username, ofList_ne_empty hafter, hx.port, hx.database⟩ (by simp [text, place, hhost])
    exact ofList_append_ne x.password '@' before (congrArg Target.password hy)
  host before port after hport hhost := by
    by_contra hbefore
    have hy := h { x with
      host := String.ofList before
      port := port
      database := String.ofList (after ++ ':' :: (portDigits x.port ++ '/' :: x.database.toList)) }
      ⟨hx.username, ofList_ne_empty hbefore, hport, ofList_ne_empty (by simp)⟩
      (by simp [text, place, hhost])
    exact ofList_ne_of_longer hhost (congrArg Target.host hy)
  database before port after hport hdatabase := by
    by_contra hafter
    have hy := h { x with
      host := String.ofList (x.host.toList ++ ':' :: (portDigits x.port ++ '/' :: before))
      port := port
      database := String.ofList after }
      ⟨hx.username, ofList_ne_empty (by simp), hport, ofList_ne_empty hafter⟩
      (by simp [text, place, hdatabase])
    exact ofList_append_ne x.host ':' _ (congrArg Target.host hy)

/-- parts without `:` and `@`, the user name and the database aside -/
theorem unmistakable_of_plain {x : Target} (husername : ':' ∉ x.username.toList)
    (hpassword : ':' ∉ x.password.toList ∧ '@' ∉ x.password.toList)
    (hhost : ':' ∉ x.host.toList ∧ '@' ∉ x.host.toList) (hdatabase : ':' ∉ x.database.toList) :
    x.Unmistakable where
  username _ _ h := absurd (h ▸ List.mem_append_right _ List.mem_cons_self) husername
  passwordColon := hpassword.1
  passwordSign := hpassword.2
  hostSign _ _ h := absurd (h ▸ List.mem_append_right _ List.mem_cons_self) hhost.2
  host _ _ _ _ h := absurd (h ▸ List.mem_append_right _ List.mem_cons_self) hhost.1
  database _ _ _ _ h := absurd (h ▸ List.mem_append_right _ List.mem_cons_self) hdatabase

end Target

/-! ## connection strings -/

/-- **What a connection string tells.**  For settings that can be used, no others that can be used have
the same connection string and another user name, password, host, port or database, exactly if no part
of them has a separator at which the string could be cut in another way. -/
theorem connection_unique_iff {s : DatabaseSettings} (h : s.fault? = none) :
    (∀ t : DatabaseSettings, t.fault? = none → t.connection = s.connection → t.target = s.target) ↔
      s.target.Unmistakable := by
  have hs := ((fault?_eq_none_iff_complete s).mp h).1
  constructor
  · intro hunique
    refine unmistakable_of_unique hs ?_
    intro y hy htext
    exact hunique (s.aimedAt y) (fault?_aimedAt h hy) (connection_eq_iff.mpr htext)
  · intro hplain t ht hconnection
    have ht := ((fault?_eq_none_iff_complete t).mp ht).1
    exact eq_of_text hplain ht (connection_eq_iff.mp hconnection)

def hotelSettings (password : String) : DatabaseSettings :=
  ⟨"db", 5432, "hotels", "app", password, 1, 10, 30, 600, 3600⟩

theorem connection_unique_of_hotels :
    (hotelSettings "p%40-9/x").fault? = none ∧
      ∀ t : DatabaseSettings, t.fault? = none →
        t.connection = (hotelSettings "p%40-9/x").connection →
        t.target = (hotelSettings "p%40-9/x").target := by
  have hfault : (hotelSettings "p%40-9/x").fault? = none := by
    decide +kernel
  refine ⟨hfault, (connection_unique_iff hfault).mpr ?_⟩
  exact unmistakable_of_plain (by decide +kernel) (by decide +kernel) (by decide +kernel)
    (by decide +kernel)

/-- The password `x@elsewhere:1/y` ends the password and names a host, a port and a database of its own:
the string is also the one of settings that go to another host. -/
theorem password_names_other_host :
    (hotelSettings "x@elsewhere:1/y").fault? = none ∧
      ∃ t : DatabaseSettings, t.fault? = none ∧
        t.connection = (hotelSettings "x@elsewhere:1/y").connection ∧
        t.password ≠ (hotelSettings "x@elsewhere:1/y").password ∧
        t.host ≠ (hotelSettings "x@elsewhere:1/y").host ∧
        t.port ≠ (hotelSettings "x@elsewhere:1/y").port ∧
        t.database ≠ (hotelSettings "x@elsewhere:1/y").database := by
  refine ⟨by decide +kernel, ⟨"elsewhere", 1, "y@db:5432/hotels", "app", "x", 1, 10, 30, 600, 3600⟩, ?_⟩
  decide +kernel

end PagedSql
