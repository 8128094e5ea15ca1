/-!
# The initial schema

The script that creates the six tables, with the constraints that keep their rows consistent.
-/

namespace Perimeter.Sql.Schema

def initialLines : List String := [
  "-- Folder hierarchy, identities, and role assignments.",
  "",
  "CREATE TABLE folders (",
  "    id          UUID PRIMARY KEY,",
  "    name        VARCHAR(200) NOT NULL,",
  "    description TEXT,",
  "    parent_id   UUID REFERENCES folders (id) ON DELETE RESTRICT,",
  "    is_root     BOOLEAN NOT NULL DEFAULT FALSE,",
  "    builtin     BOOLEAN NOT NULL DEFAULT FALSE,",
  "    created_at  TIMESTAMPTZ NOT NULL DEFAULT NOW(),",
  "    updated_at  TIMESTAMPTZ NOT NULL DEFAULT NOW(),",
  "    CONSTRAINT folders_root_has_no_parent CHECK (NOT is_root OR parent_id IS NULL),",
  "    CONSTRAINT folders_non_root_has_parent CHECK (is_root OR parent_id IS NOT NULL),",
  "    CONSTRAINT folders_not_own_parent CHECK (parent_id IS NULL OR parent_id <> id)",
  ");",
  "",
  "CREATE UNIQUE INDEX folders_single_root ON folders (is_root) WHERE is_root;",
  "CREATE INDEX folders_parent_id_idx ON folders (parent_id);",
  "",
  "CREATE TABLE users (",
  "    id          UUID PRIMARY KEY,",
  "    email       VARCHAR(254) NOT NULL,",
  "    first_name  VARCHAR(150),",
  "    last_name   VARCHAR(150),",
  "    is_active   BOOLEAN NOT NULL DEFAULT TRUE,",
  "    created_at  TIMESTAMPTZ NOT NULL DEFAULT NOW(),",
  "    updated_at  TIMESTAMPTZ NOT NULL DEFAULT NOW(),",
  "    CONSTRAINT users_email_key UNIQUE (email)",
  ");",
  "",
  "CREATE TABLE roles (",
  "    id          UUID PRIMARY KEY,",
  "    name        VARCHAR(200) NOT NULL,",
  "    description TEXT,",
  "    permissions TEXT[] NOT NULL DEFAULT '\x7b\x7d',",
  "    builtin     BOOLEAN NOT NULL DEFAULT FALSE,",
  "    created_at  TIMESTAMPTZ NOT NULL DEFAULT NOW(),",
  "    CONSTRAINT roles_name_key UNIQUE (name)",
  ");",
  "",
  "CREATE TABLE user_groups (",
  "    id          UUID PRIMARY KEY,",
  "    name        VARCHAR(200) NOT NULL,",
  "    folder_id   UUID NOT NULL REFERENCES folders (id) ON DELETE RESTRICT,",
  "    builtin     BOOLEAN NOT NULL DEFAULT FALSE,",
  "    created_at  TIMESTAMPTZ NOT NULL DEFAULT NOW()",
  ");",
  "",
  "CREATE INDEX user_groups_folder_id_idx ON user_groups (folder_id);",
  "",
  "CREATE TABLE group_memberships (",
  "    user_id       UUID NOT NULL REFERENCES users (id) ON DELETE CASCADE,",
  "    user_group_id UUID NOT NULL REFERENCES user_groups (id) ON DELETE CASCADE,",
  "    created_at    TIMESTAMPTZ NOT NULL DEFAULT NOW(),",
  "    PRIMARY KEY (user_id, user_group_id)",
  ");",
  "",
  "CREATE TABLE role_assignments (",
  "    id            UUID PRIMARY KEY,",
  "    role_id       UUID NOT NULL REFERENCES roles (id) ON DELETE CASCADE,",
  "    user_id       UUID REFERENCES users (id) ON DELETE CASCADE,",
  "    user_group_id UUID REFERENCES user_groups (id) ON DELETE CASCADE,",
  "    folder_id     UUID NOT NULL REFERENCES folders (id) ON DELETE RESTRICT,",
  "    is_recursive  BOOLEAN NOT NULL DEFAULT FALSE,",
  "    created_at    TIMESTAMPTZ NOT NULL DEFAULT NOW(),",
  "    CONSTRAINT role_assignments_one_principal",
  "        CHECK ((user_id IS NULL) <> (user_group_id IS NULL))",
  ");",
  "",
  "CREATE INDEX role_assignments_folder_id_idx ON role_assignments (folder_id);"]

def initialScript : String := "\n".intercalate initialLines ++ "\n"

end Perimeter.Sql.Schema
