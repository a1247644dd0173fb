-- A power is the one of the core library, whatever other instances a module imports.
attribute [instance (high), default_instance 20000] instPowNat
