/-!
# Powers

The power of a natural number or an integer is the one of the core library, also where an algebraic
hierarchy brings another instance of the same operation.
-/

attribute [instance (high + 1), default_instance (high + 1)] instPowNat
