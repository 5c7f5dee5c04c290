namespace TabSearch

def byteCount : List Char → Nat
  | [] => 0
  | c :: rest => c.utf8Size + byteCount rest

theorem byteCount_append (s t : List Char) : byteCount (s ++ t) = byteCount s + byteCount t := by
  induction s with
  | nil => simp [byteCount]
  | cons c s ih => simp [byteCount, ih, Nat.add_assoc]

theorem byteCount_eq_zero {t : List Char} : byteCount t = 0 ↔ t = [] := by
  cases t with
  | nil => simp [byteCount]
  | cons c t => simp [byteCount, Nat.ne_of_gt c.utf8Size_pos]

def takeBytes (bytes : Nat) : List Char → List Char
  | [] => []
  | c :: rest => if c.utf8Size ≤ bytes then c :: takeBytes (bytes - c.utf8Size) rest else []

def dropBytes (bytes : Nat) : List Char → List Char
  | [] => []
  | c :: rest => if c.utf8Size ≤ bytes then dropBytes (bytes - c.utf8Size) rest else c :: rest

theorem takeBytes_zero (t : List Char) : takeBytes 0 t = [] := by
  cases t with
  | nil => rfl
  | cons c t => simp [takeBytes, Nat.ne_of_gt c.utf8Size_pos]

theorem dropBytes_zero (t : List Char) : dropBytes 0 t = t := by
  cases t with
  | nil => rfl
  | cons c t => simp [dropBytes, Nat.ne_of_gt c.utf8Size_pos]

theorem takeBytes_append (s t : List Char) : takeBytes (byteCount s) (s ++ t) = s := by
  induction s with
  | nil => exact takeBytes_zero t
  | cons c s ih => simp [takeBytes, byteCount, ih]

theorem dropBytes_append (s t : List Char) : dropBytes (byteCount s) (s ++ t) = t := by
  induction s with
  | nil => exact dropBytes_zero t
  | cons c s ih => simp [dropBytes, byteCount, ih]

end TabSearch
